import LeaseRoutes.Config.File
/-!
A value meets a list of requirements, each about one field, and the first that it does not meet is
the one that is reported. How addresses are read does not matter.
-/

namespace LeaseRoutes

/-! ## Requirements -/

/-- A field and what it must be. -/
structure Requirement where
  field : String
  met : Prop

/-- The field is the first that is not as it must be. -/
def FirstUnmet (rs : List Requirement) (name : String) : Prop :=
  ∃ before r after, rs = before ++ r :: after ∧ (∀ q ∈ before, q.met) ∧ ¬r.met ∧ r.field = name

/-- The computation gives a result just if all is as required, and otherwise names the first field
that is not. -/
structure Reports (x : Except ConfigFault α) (rs : List Requirement) : Prop where
  ok_iff : (∃ a, x = .ok a) ↔ ∀ r ∈ rs, r.met
  first : ∀ e, x = .error e → FirstUnmet rs e.field

section Requirements

variable {α β : Type} {x : Except ConfigFault α} {k : α → Except ConfigFault β}
  {rs ts : List Requirement} {r : Requirement} {name : String}

theorem FirstUnmet.append_left (h : FirstUnmet rs name) (ts : List Requirement) :
    FirstUnmet (rs ++ ts) name := by
  obtain ⟨before, r, after, rfl, met, unmet, field⟩ := h
  exact ⟨before, r, after ++ ts, by simp, met, unmet, field⟩

theorem FirstUnmet.append_right (all : ∀ r ∈ rs, r.met) (h : FirstUnmet ts name) :
    FirstUnmet (rs ++ ts) name := by
  obtain ⟨before, r, after, rfl, met, unmet, field⟩ := h
  refine ⟨rs ++ before, r, after, by simp, ?_, unmet, field⟩
  intro q member
  rcases List.mem_append.1 member with member | member
  · exact all q member
  · exact met q member

/-- Only one field is the first. -/
theorem FirstUnmet.unique {other : String} (h : FirstUnmet rs name) (g : FirstUnmet rs other) :
    name = other := by
  obtain ⟨before, r, after, rfl, met, unmet, rfl⟩ := h
  obtain ⟨front, q, rest, same, all, fails, rfl⟩ := g
  rcases List.append_eq_append_iff.1 same with ⟨between, rfl, tail⟩ | ⟨between, rfl, tail⟩
  · cases between with
    | nil =>
      cases tail
      rfl
    | cons p between =>
      cases tail
      exact absurd (all r (by simp)) unmet
  · cases between with
    | nil =>
      cases tail
      rfl
    | cons p between =>
      cases tail
      exact absurd (met q (by simp)) fails

theorem Reports.error_iff (h : Reports x rs) (name : String) :
    (∃ e, x = .error e ∧ e.field = name) ↔ FirstUnmet rs name := by
  constructor
  · rintro ⟨e, given, rfl⟩
    exact h.first e given
  · intro unmet
    cases x with
    | error e => exact ⟨e, rfl, (h.first e rfl).unique unmet⟩
    | ok a =>
      obtain ⟨before, r, after, rfl, -, fails, -⟩ := unmet
      exact absurd (h.ok_iff.1 ⟨a, rfl⟩ r (by simp)) fails

theorem Reports.reject {e : ConfigFault} (unmet : ¬r.met) (field : e.field = r.field)
    (rs : List Requirement) : Reports (.error e : Except ConfigFault α) (r :: rs) := by
  constructor
  · constructor
    · nofun
    · intro all
      exact absurd (all r List.mem_cons_self) unmet
  · intro d h
    cases h
    exact ⟨[], r, rs, rfl, by simp, unmet, field.symm⟩

theorem Reports.after (met : r.met) (rest : Reports x rs) : Reports x (r :: rs) := by
  constructor
  · rw [List.forall_mem_cons, rest.ok_iff]
    exact ⟨fun all => ⟨met, all⟩, And.right⟩
  · intro e h
    exact (rest.first e h).append_right (List.forall_mem_singleton.2 met)

theorem Reports.nothing (a : α) : Reports (.ok a) [] :=
  ⟨⟨fun _ => by simp, fun _ => ⟨a, rfl⟩⟩, nofun⟩

/-- The requirements of a second step are looked at if those of the first are met. -/
theorem Reports.bind (one : Reports x rs) (two : ∀ a, x = .ok a → Reports (k a) ts) :
    Reports (x >>= k) (rs ++ ts) := by
  cases x with
  | error e =>
    have unmet := one.first e rfl
    constructor
    · constructor
      · rintro ⟨b, h⟩
        cases h
      · intro all
        obtain ⟨a, h⟩ := one.ok_iff.2 fun r member => all r (List.mem_append_left ts member)
        cases h
    · intro d h
      cases h
      exact unmet.append_left ts
  | ok a =>
    have met := one.ok_iff.1 ⟨a, rfl⟩
    have rest := two a rfl
    constructor
    · rw [List.forall_mem_append]
      exact rest.ok_iff.trans ⟨fun all => ⟨met, all⟩, And.right⟩
    · intro e h
      exact .append_right met (rest.first e h)

/-- A reader of one field. -/
theorem Reports.one {P : α → Prop} (ok : ∀ a, x = .ok a ↔ P a)
    (field : ∀ e, x = .error e → e.field = r.field) (met : r.met ↔ ∃ a, P a) :
    Reports x [r] := by
  cases x with
  | ok a => exact .after (met.2 ⟨a, (ok a).1 rfl⟩) (.nothing a)
  | error e =>
    have unmet : ¬r.met := by
      rw [met]
      rintro ⟨a, given⟩
      cases (ok a).2 given
    exact .reject unmet (field e rfl) []

end Requirements

/-! ## Addresses -/

namespace AnyUrl

variable {u : AnyUrl} {w : Url}

theorem isSome_web?_iff : (∃ w, u.web? = some w) ↔
    (u.scheme = "http" ∨ u.scheme = "https") ∧ u.host.isSome := by
  unfold web?
  split
  · next web => cases u.host <;> simp [web]
  · next web => simp [web]

theorem secure_of_web? (h : u.web? = some w) : w.secure = true ↔ u.scheme = "https" := by
  unfold web? at h
  split at h
  · obtain ⟨host, -, rfl⟩ := Option.map_eq_some_iff.1 h
    simp
  · cases h

end AnyUrl

namespace Connection

/-! ## Fields -/

section Fields

/-- A member that may be missing is missing, or `null`. -/
def Absent (o : Option Json) : Prop := o = none ∨ o = some .null

def IsMap (o : Option Json) : Prop := ∃ m, o = some (.obj m)

def IsText (o : Option Json) : Prop := ∃ s, o = some (.str s)

/-- The member is a positive number of 64 bits. -/
def Counts (o : Option Json) (n : Nat) : Prop := o = some (Json.ofNat n) ∧ 1 ≤ n ∧ n < Text.word64

def Switches (o : Option Json) (b : Bool) : Prop := o = some (.bool b)

/-- What a member chooses that may be missing: the standard value, or the one that it tells. -/
def Chosen (tells : Option Json → α → Prop) (o : Option Json) (standard a : α) : Prop :=
  (Absent o ∧ a = standard) ∨ tells o a

theorem exists_chosen_iff {tells : Option Json → α → Prop} {o : Option Json} {standard : α} :
    (∃ a, Chosen tells o standard a) ↔ Absent o ∨ ∃ a, tells o a := by
  constructor
  · rintro ⟨a, ⟨absent, -⟩ | told⟩
    · exact .inl absent
    · exact .inr ⟨a, told⟩
  · rintro (absent | ⟨a, told⟩)
    · exact ⟨standard, .inl ⟨absent, rfl⟩⟩
    · exact ⟨a, .inr told⟩

theorem Chosen.pos {o : Option Json} {standard n : Nat} (h : Chosen Counts o standard n)
    (pos : 0 < standard) : 0 < n := by
  rcases h with ⟨-, rfl⟩ | ⟨-, least, -⟩
  · exact pos
  · exact least

variable {m : Members} {name : String} {e : ConfigFault}

theorem present?_eq_none_iff : present? m name = none ↔ Absent (m.lookup name) := by
  unfold present? Absent
  cases m.lookup name with
  | none => simp
  | some j => cases j <;> simp

theorem present?_eq_some_iff {j : Json} (filled : j ≠ .null) :
    present? m name = some j ↔ m.lookup name = some j := by
  unfold present?
  cases m.lookup name with
  | none => simp
  | some k => cases k <;> simp [filled.symm]

theorem string_eq_ok_iff (s : String) : string m name = .ok s ↔ m.lookup name = some (.str s) := by
  rw [← present?_eq_some_iff (by simp)]
  unfold string
  split <;> simp_all

theorem field_of_string (h : string m name = .error e) : e.field = name := by
  unfold string at h
  split at h <;> cases h <;> rfl

theorem map_eq_ok_iff (members : Members) :
    map m name = .ok members ↔ m.lookup name = some (.obj members) := by
  rw [← present?_eq_some_iff (by simp)]
  unfold map
  split <;> simp_all

theorem field_of_map (h : map m name = .error e) : e.field = name := by
  unfold map at h
  split at h <;> cases h <;> rfl

theorem positive_eq_ok_iff (standard n : Nat) :
    positive m name standard = .ok n ↔ Chosen Counts (m.lookup name) standard n := by
  unfold Chosen Counts
  rw [← present?_eq_none_iff, ← present?_eq_some_iff (by simp [Json.ofNat])]
  unfold positive
  split
  · next absent => simp [absent, eq_comm]
  · next i number =>
    simp only [number, Json.ofNat, Option.some.injEq, Json.num.injEq, Number.whole.injEq,
      reduceCtorEq, false_and, false_or]
    by_cases fits : 0 < i ∧ i < Text.word64
    · rw [if_pos fits, Except.ok.injEq]
      omega
    · rw [if_neg fits]
      simp only [reduceCtorEq, false_iff]
      omega
  · next j other wrong =>
    simp only [wrong, reduceCtorEq, false_and, false_or, false_iff, Option.some.injEq]
    rintro ⟨rfl, -⟩
    exact other _ rfl

theorem field_of_positive {standard : Nat} (h : positive m name standard = .error e) :
    e.field = name := by
  unfold positive at h
  split at h
  · cases h
  · split at h <;> cases h
    rfl
  · cases h
    rfl

theorem flag_eq_ok_iff (standard b : Bool) :
    flag m name standard = .ok b ↔ Chosen Switches (m.lookup name) standard b := by
  unfold Chosen Switches
  rw [← present?_eq_none_iff, ← present?_eq_some_iff (by simp)]
  unfold flag
  split
  · next absent => simp [absent, eq_comm]
  · next c switch => simp [switch]
  · next j other wrong =>
    simp only [wrong, reduceCtorEq, false_and, false_or, false_iff, Option.some.injEq]
    rintro rfl
    exact other _ rfl

theorem field_of_flag {standard : Bool} (h : flag m name standard = .error e) :
    e.field = name := by
  unfold flag at h
  split at h <;> cases h
  rfl

theorem hostUrl_eq_ok_iff (urlOf : UrlReader) (w : Url) :
    hostUrl urlOf m = .ok w ↔
      ∃ s u, m.lookup "host" = some (.str s) ∧ urlOf s = .ok u ∧ u.web? = some w := by
  simp only [hostUrl, bind_eq_ok_iff, string_eq_ok_iff]
  refine exists_congr fun s => ?_
  rw [exists_and_left, and_congr_right_iff]
  intro _
  cases urlOf s with
  | error => simp [throw, throwThe, MonadExceptOf.throw]
  | ok u =>
    simp only [Except.ok.injEq, exists_eq_left']
    cases u.web? <;> simp [throw, throwThe, MonadExceptOf.throw, pure, Except.pure]

theorem field_of_hostUrl {urlOf : UrlReader} (h : hostUrl urlOf m = .error e) :
    e.field = "host" := by
  unfold hostUrl at h
  cases text : string m "host" with
  | error d =>
    rw [text] at h
    cases h
    exact field_of_string text
  | ok s =>
    simp only [text, bind, Except.bind] at h
    split at h
    · cases h
      rfl
    · split at h
      · cases h
      · cases h
        rfl

end Fields

/-! ## Parameters -/

/-- A member of the credentials. -/
def secret? (j : Json) (name : String) : Option Json := (j.get? "credentials").bind (·.get? name)

/-- Only maps have members. -/
theorem isMap_of_get? {j v : Json} {name : String} (h : j.get? name = some v) :
    IsMap (some j) := by
  cases j with
  | obj m => exact ⟨m, rfl⟩
  | null | bool | num | str | arr => cases h

theorem isMap_of_secret? {j v : Json} {name : String} (h : secret? j name = some v) :
    IsMap (j.get? "credentials") := by
  obtain ⟨credentials, there, found⟩ := Option.bind_eq_some_iff.1 h
  rw [there]
  exact isMap_of_get? found

/-- The host is an address of the web. -/
def IsHost (urlOf : UrlReader) (j : Json) : Prop :=
  ∃ s u, j.get? "host" = some (.str s) ∧ urlOf s = .ok u ∧
    (u.scheme = "http" ∨ u.scheme = "https") ∧ u.host.isSome

def IsSecure (urlOf : UrlReader) (j : Json) : Prop :=
  ∃ s u, j.get? "host" = some (.str s) ∧ urlOf s = .ok u ∧ u.scheme = "https"

/-- The scheme is that of the address that is connected to. -/
theorem secure_of_host {urlOf : UrlReader} {j : Json} {s : String} {u : AnyUrl} {w : Url}
    (text : j.get? "host" = some (.str s)) (read : urlOf s = .ok u) (web : u.web? = some w) :
    w.secure = true ↔ IsSecure urlOf j := by
  rw [AnyUrl.secure_of_web? web]
  constructor
  · intro https
    exact ⟨s, u, text, read, https⟩
  · rintro ⟨t, v, other, again, https⟩
    cases text.symm.trans other
    cases read.symm.trans again
    exact https

/-- What the parameters of a connection must be, in the order in which they are looked at. -/
def requirements (urlOf : UrlReader) (j : Json) : List Requirement := [
  ⟨"connection-params", IsMap (some j)⟩,
  ⟨"host", IsHost urlOf j⟩,
  ⟨"credentials", IsMap (j.get? "credentials")⟩,
  ⟨"login", IsText (secret? j "login")⟩,
  ⟨"password", IsText (secret? j "password")⟩,
  ⟨"certificate", IsSecure urlOf j → IsText (secret? j "certificate")⟩,
  ⟨"keyfile", IsSecure urlOf j → IsText (secret? j "keyfile")⟩,
  ⟨"heartbeat-interval", Absent (j.get? "heartbeat-interval") ∨
    ∃ n, Counts (j.get? "heartbeat-interval") n⟩,
  ⟨"request-timeout", Absent (j.get? "request-timeout") ∨
    ∃ n, Counts (j.get? "request-timeout") n⟩,
  ⟨"pool-size", Absent (j.get? "pool-size") ∨ ∃ n, Counts (j.get? "pool-size") n⟩,
  ⟨"multi-threaded", Absent (j.get? "multi-threaded") ∨
    ∃ b, Switches (j.get? "multi-threaded") b⟩]

/-- What a whole configuration must be. -/
def configRequirements (urlOf : UrlReader) (j : Json) : List Requirement :=
  ⟨"config", IsMap (some j)⟩ ::
  ⟨"connection-type", j.get? "connection-type" = some (.str "nxos")⟩ ::
  requirements urlOf ((j.get? "connection-params").getD .null)

section Members

variable {urlOf : UrlReader} {m secrets : Members} {u : Url} {c : Connection}

theorem exists_hostUrl_iff : (∃ w s u, m.lookup "host" = some (.str s) ∧ urlOf s = .ok u ∧
    u.web? = some w) ↔ IsHost urlOf (.obj m) := by
  constructor
  · rintro ⟨w, s, u, text, read, web⟩
    exact ⟨s, u, text, read, AnyUrl.isSome_web?_iff.1 ⟨w, web⟩⟩
  · rintro ⟨s, u, text, read, web⟩
    obtain ⟨w, web⟩ := AnyUrl.isSome_web?_iff.2 web
    exact ⟨w, s, u, text, read, web⟩

theorem secure_iff (h : hostUrl urlOf m = .ok u) : u.secure = true ↔ IsSecure urlOf (.obj m) := by
  obtain ⟨s, v, text, read, web⟩ := (hostUrl_eq_ok_iff urlOf u).1 h
  exact secure_of_host text read web

theorem secret?_of_map (h : map m "credentials" = .ok secrets) (name : String) :
    secret? (.obj m) name = secrets.lookup name := by
  have found : (Json.obj m).get? "credentials" = some (.obj secrets) := (map_eq_ok_iff secrets).1 h
  rw [secret?, found]
  rfl

theorem reports_hostUrl (urlOf : UrlReader) (m : Members) :
    Reports (hostUrl urlOf m) [⟨"host", IsHost urlOf (.obj m)⟩] :=
  .one (hostUrl_eq_ok_iff urlOf) (fun _ => field_of_hostUrl) exists_hostUrl_iff.symm

theorem reports_map (m : Members) (name : String) :
    Reports (map m name) [⟨name, IsMap ((Json.obj m).get? name)⟩] :=
  .one map_eq_ok_iff (fun _ => field_of_map) Iff.rfl

theorem reports_secret (h : map m "credentials" = .ok secrets) (name : String) :
    Reports (string secrets name) [⟨name, IsText (secret? (.obj m) name)⟩] := by
  rw [secret?_of_map h]
  exact .one string_eq_ok_iff (fun _ => field_of_string) Iff.rfl

theorem reports_positive (m : Members) (name : String) (standard : Nat) :
    Reports (positive m name standard)
      [⟨name, Absent ((Json.obj m).get? name) ∨ ∃ n, Counts ((Json.obj m).get? name) n⟩] :=
  .one (positive_eq_ok_iff standard) (fun _ => field_of_positive) exists_chosen_iff.symm

theorem reports_flag (m : Members) (name : String) (standard : Bool) :
    Reports (flag m name standard)
      [⟨name, Absent ((Json.obj m).get? name) ∨ ∃ b, Switches ((Json.obj m).get? name) b⟩] :=
  .one (flag_eq_ok_iff standard) (fun _ => field_of_flag) exists_chosen_iff.symm

/-- The files of a certificate are asked for on secure connections only. -/
theorem reports_certificateFor (read : hostUrl urlOf m = .ok u)
    (found : map m "credentials" = .ok secrets) :
    Reports (certificateFor u secrets) [
      ⟨"certificate", IsSecure urlOf (.obj m) → IsText (secret? (.obj m) "certificate")⟩,
      ⟨"keyfile", IsSecure urlOf (.obj m) → IsText (secret? (.obj m) "keyfile")⟩] := by
  unfold certificateFor
  split
  · next secure =>
    have https := (secure_iff read).1 secure
    simp only [https, true_imp_iff]
    refine (reports_secret found "certificate").bind fun certificate _ => ?_
    exact (reports_secret found "keyfile").bind fun key _ => .nothing _
  · next plain =>
    have http : ¬IsSecure urlOf (.obj m) := mt (secure_iff read).2 plain
    constructor
    · simp [http, pure, Except.pure]
    · nofun

theorem reports_ofMembers (urlOf : UrlReader) (m : Members) :
    Reports (ofMembers urlOf m) (requirements urlOf (.obj m)).tail := by
  refine (reports_hostUrl urlOf m).bind fun u read => ?_
  refine (reports_map m "credentials").bind fun secrets found => ?_
  refine (reports_secret found "login").bind fun login _ => ?_
  refine (reports_secret found "password").bind fun password _ => ?_
  refine (reports_certificateFor read found).bind fun certificate _ => ?_
  refine (reports_positive m "heartbeat-interval" 10).bind fun heartbeat _ => ?_
  refine (reports_positive m "request-timeout" 10).bind fun timeout _ => ?_
  refine (reports_positive m "pool-size" 4).bind fun poolSize _ => ?_
  exact (reports_flag m "multi-threaded" true).bind fun multiThreaded _ => .nothing _

end Members

section Values

variable {urlOf : UrlReader} {j k : Json} {c : Connection}

theorem reports_ofJsonWith (urlOf : UrlReader) (j : Json) :
    Reports (ofJsonWith urlOf j) (requirements urlOf j) := by
  cases j with
  | obj m => exact .after ⟨m, rfl⟩ (reports_ofMembers urlOf m)
  | null | bool | num | str | arr =>
    refine .reject ?_ rfl _
    rintro ⟨m, h⟩
    cases h

/-- A configuration is no map, is of no known type, or is as good as its parameters. -/
theorem ofConfigWith_cases (urlOf : UrlReader) (j : Json) :
    (¬IsMap (some j) ∧ ∃ e, ofConfigWith urlOf j = .error e ∧ e.field = "config") ∨
    (IsMap (some j) ∧ j.get? "connection-type" ≠ some (.str "nxos") ∧
      ∃ e, ofConfigWith urlOf j = .error e ∧ e.field = "connection-type") ∨
    (IsMap (some j) ∧ j.get? "connection-type" = some (.str "nxos") ∧
      ofConfigWith urlOf j = ofJsonWith urlOf ((j.get? "connection-params").getD .null)) := by
  cases j with
  | null | bool | num | str | arr =>
    refine .inl ⟨?_, _, rfl, rfl⟩
    rintro ⟨m, h⟩
    cases h
  | obj m =>
    refine .inr ?_
    simp only [ofConfigWith]
    split
    · next t type =>
      split
      · next nxos =>
        subst nxos
        exact .inr ⟨⟨m, rfl⟩, type, rfl⟩
      · next other =>
        refine .inl ⟨⟨m, rfl⟩, ?_, _, rfl, rfl⟩
        intro met
        cases type.symm.trans met
        exact other rfl
    · next untyped => exact .inl ⟨⟨m, rfl⟩, untyped "nxos", _, rfl, rfl⟩

theorem reports_ofConfigWith (urlOf : UrlReader) (j : Json) :
    Reports (ofConfigWith urlOf j) (configRequirements urlOf j) := by
  rcases ofConfigWith_cases urlOf j with ⟨noMap, e, given, field⟩ |
    ⟨map, untyped, e, given, field⟩ | ⟨map, type, given⟩
  · rw [given]
    exact .reject noMap field _
  · rw [given]
    exact .after map (.reject untyped field _)
  · rw [given]
    exact .after map (.after type (reports_ofJsonWith urlOf _))

/-! ## Results -/

/-- What the parameters say of the certificate. -/
def CertificateTold (j : Json) (secure : Bool) : Option Certificate → Prop
  | some files => secure = true ∧ secret? j "certificate" = some (.str files.certificate) ∧
    secret? j "keyfile" = some (.str files.key)
  | none => secure = false

/-- What the parameters say of a connection. -/
structure Told (c : Connection) (urlOf : UrlReader) (j : Json) : Prop where
  url : ∃ s u, j.get? "host" = some (.str s) ∧ urlOf s = .ok u ∧ u.web? = some c.url
  login : secret? j "login" = some (.str c.credentials.login)
  password : secret? j "password" = some (.str c.credentials.password)
  certificate : CertificateTold j c.url.secure c.certificate
  heartbeat : Chosen Counts (j.get? "heartbeat-interval") 10 c.heartbeat
  timeout : Chosen Counts (j.get? "request-timeout") 10 c.timeout
  poolSize : Chosen Counts (j.get? "pool-size") 4 c.poolSize
  multiThreaded : Chosen Switches (j.get? "multi-threaded") true c.multiThreaded

theorem certificateFor_eq_ok_iff {m secrets : Members} {u : Url} {files : Option Certificate}
    (found : map m "credentials" = .ok secrets) :
    certificateFor u secrets = .ok files ↔ CertificateTold (.obj m) u.secure files := by
  unfold certificateFor
  split
  · next secure =>
    simp only [bind_eq_ok_iff, string_eq_ok_iff, ← secret?_of_map found]
    constructor
    · rintro ⟨certificate, first, key, second, same⟩
      cases same
      exact ⟨secure, first, second⟩
    · intro told
      cases files with
      | none => exact absurd told (by simp [CertificateTold, secure])
      | some files => exact ⟨files.certificate, told.2.1, files.key, told.2.2, rfl⟩
  · next plain =>
    cases files <;> simp_all [CertificateTold, pure, Except.pure]

theorem ofJsonWith_eq_ok_iff : ofJsonWith urlOf j = .ok c ↔ c.Told urlOf j := by
  cases j with
  | null | bool | num | str | arr =>
    constructor
    · nofun
    · rintro ⟨⟨_, _, host, -⟩, -⟩
      cases host
  | obj m =>
    rw [ofJsonWith, ofMembers]
    simp only [bind_eq_ok_iff]
    constructor
    · rintro ⟨u, url, secrets, found, login, first, password, second, files, third, heartbeat,
        fourth, timeout, fifth, poolSize, sixth, multiThreaded, seventh, same⟩
      cases same
      exact {
        url := (hostUrl_eq_ok_iff urlOf u).1 url
        login := (secret?_of_map found _).trans ((string_eq_ok_iff login).1 first)
        password := (secret?_of_map found _).trans ((string_eq_ok_iff password).1 second)
        certificate := (certificateFor_eq_ok_iff found).1 third
        heartbeat := (positive_eq_ok_iff 10 heartbeat).1 fourth
        timeout := (positive_eq_ok_iff 10 timeout).1 fifth
        poolSize := (positive_eq_ok_iff 4 poolSize).1 sixth
        multiThreaded := (flag_eq_ok_iff true multiThreaded).1 seventh }
    · intro told
      obtain ⟨secrets, credentials⟩ := isMap_of_secret? told.login
      have found := (map_eq_ok_iff secrets).2 credentials
      have secret (name : String) := (secret?_of_map found name).symm
      exact ⟨_, (hostUrl_eq_ok_iff urlOf c.url).2 told.url, secrets, found,
        _, (string_eq_ok_iff _).2 ((secret _).trans told.login),
        _, (string_eq_ok_iff _).2 ((secret _).trans told.password),
        _, (certificateFor_eq_ok_iff found).2 told.certificate,
        _, (positive_eq_ok_iff 10 _).2 told.heartbeat,
        _, (positive_eq_ok_iff 10 _).2 told.timeout,
        _, (positive_eq_ok_iff 4 _).2 told.poolSize,
        _, (flag_eq_ok_iff true _).2 told.multiThreaded, rfl⟩

theorem CertificateTold.isSome_iff {secure : Bool} {files : Option Certificate}
    (h : CertificateTold j secure files) : files.isSome ↔ secure = true := by
  cases files with
  | none =>
    have plain : secure = false := h
    simp [plain]
  | some files =>
    have https : secure = true := h.1
    simp [https]

theorem Told.isSome_certificate_iff (h : c.Told urlOf j) :
    c.certificate.isSome ↔ IsSecure urlOf j := by
  obtain ⟨s, u, text, read, web⟩ := h.url
  exact h.certificate.isSome_iff.trans (secure_of_host text read web)

/-- The values agree in every field that counts; the files of a certificate count on secure
connections only. -/
structure Agree (secure : Bool) (j k : Json) : Prop where
  fields : ∀ name ∈ ["host", "heartbeat-interval", "request-timeout", "pool-size",
    "multi-threaded"], k.get? name = j.get? name
  secrets : ∀ name ∈ ["login", "password"], secret? k name = secret? j name
  files : secure = true → ∀ name ∈ ["certificate", "keyfile"], secret? k name = secret? j name

theorem CertificateTold.agree {secure : Bool} {files : Option Certificate}
    (h : CertificateTold j secure files) (same : Agree secure j k) :
    CertificateTold k secure files := by
  cases files with
  | none => exact h
  | some files =>
    obtain ⟨https, certificate, key⟩ := h
    exact ⟨https, (same.files https _ (by simp)).trans certificate,
      (same.files https _ (by simp)).trans key⟩

theorem Told.agree (h : c.Told urlOf j) (same : Agree c.url.secure j k) : c.Told urlOf k where
  url := by
    rw [same.fields "host" (by simp)]
    exact h.url
  login := (same.secrets "login" (by simp)).trans h.login
  password := (same.secrets "password" (by simp)).trans h.password
  certificate := h.certificate.agree same
  heartbeat := by
    rw [same.fields "heartbeat-interval" (by simp)]
    exact h.heartbeat
  timeout := by
    rw [same.fields "request-timeout" (by simp)]
    exact h.timeout
  poolSize := by
    rw [same.fields "pool-size" (by simp)]
    exact h.poolSize
  multiThreaded := by
    rw [same.fields "multi-threaded" (by simp)]
    exact h.multiThreaded

theorem ofConfigWith_eq_ok_iff : ofConfigWith urlOf j = .ok c ↔
    IsMap (some j) ∧ j.get? "connection-type" = some (.str "nxos") ∧
      ofJsonWith urlOf ((j.get? "connection-params").getD .null) = .ok c := by
  rcases ofConfigWith_cases urlOf j with ⟨noMap, e, given, -⟩ |
    ⟨-, untyped, e, given, -⟩ | ⟨map, type, given⟩
  · simp [given, noMap]
  · simp [given, untyped]
  · simp [given, map, type]

/-- However addresses are read: the parameters of a connection are accepted just if they meet all
requirements, and otherwise the first field is named that is not as it must be. What is accepted has
a certificate just if the connection is secure, has positive times and workers, and depends on no
other field. A whole configuration is accepted just if it is of the one type that there is and its
parameters are; what is wrong with the type is said before anything about them. -/
theorem acceptance (urlOf : UrlReader) (j : Json) :
    ((∃ c, ofJsonWith urlOf j = .ok c) ↔ ∀ r ∈ requirements urlOf j, r.met) ∧
    (∀ name, (∃ e, ofJsonWith urlOf j = .error e ∧ e.field = name) ↔
      FirstUnmet (requirements urlOf j) name) ∧
    (∀ c, ofJsonWith urlOf j = .ok c ↔ c.Told urlOf j) ∧
    (∀ c, ofJsonWith urlOf j = .ok c →
      (c.certificate.isSome ↔ IsSecure urlOf j) ∧
      0 < c.heartbeat ∧ 0 < c.timeout ∧ 0 < c.poolSize ∧
      ∀ k, Agree c.url.secure j k → ofJsonWith urlOf k = .ok c) ∧
    (∀ c, ofConfigWith urlOf j = .ok c ↔
      IsMap (some j) ∧ j.get? "connection-type" = some (.str "nxos") ∧
        ofJsonWith urlOf ((j.get? "connection-params").getD .null) = .ok c) ∧
    ∀ name, (∃ e, ofConfigWith urlOf j = .error e ∧ e.field = name) ↔
      FirstUnmet (configRequirements urlOf j) name := by
  have params := reports_ofJsonWith urlOf j
  refine ⟨params.ok_iff, params.error_iff, fun c => ofJsonWith_eq_ok_iff, ?_,
    fun c => ofConfigWith_eq_ok_iff, (reports_ofConfigWith urlOf j).error_iff⟩
  intro c accepted
  have told := ofJsonWith_eq_ok_iff.1 accepted
  refine ⟨told.isSome_certificate_iff, told.heartbeat.pos (by decide), told.timeout.pos (by decide),
    told.poolSize.pos (by decide), ?_⟩
  intro k same
  exact ofJsonWith_eq_ok_iff.2 (told.agree same)

/-- Several fields are wrong, and the first of them is named. -/
example (urlOf : UrlReader) :
    let j : Json := .obj [("credentials", .arr []), ("host", .null), ("pool-size", .bool true)]
    ∃ e, ofJsonWith urlOf j = .error e ∧ e.field = "host" :=
  ⟨_, rfl, rfl⟩

end Values

end Connection

end LeaseRoutes
