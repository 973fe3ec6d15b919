import Mathlib.Data.List.Find
import TenantOnboarding.Proofs.Text.Numerals
import TenantOnboarding.Settings.Basic

/-!
# Looking up the settings

A setting that must be there is given if it is there and not empty. Which settings must be there hangs on
whether the address of the database is given as a whole (`needed`).

* `Demands`: a lookup fails exactly if a setting that it must find is not given, and then the first of them
  is named. One step demands its own setting, and steps one behind the other demand theirs in their order
  (`Demands.bind`), so `demands_ofLookup` follows the steps of `ofLookup`.
* `getD_unsigned?_eq_iff`: a number that cannot be read has its usual value (`Obtained`).
* `ofLookup_congr`: with an address as a whole its parts are not looked up.
* **`loads_settings`** puts these together.
-/

namespace TenantOnboarding.Settings

/-! ## Given settings -/

/-- A setting is there, and it is not empty. -/
def IsGiven (lookup : Lookup) (name : String) : Prop :=
  ∃ value, lookup name = some value ∧ value ≠ ""

variable {α β : Type} {lookup lookup' : Lookup} {name : String}

/-- A value that is found is that of a given setting. -/
theorem given?_eq_some_iff {value : String} :
    given? lookup name = some value ↔ lookup name = some value ∧ value ≠ "" := by
  simp [given?, Option.filter_eq_some_iff]

/-- A value is found exactly if the setting is given. -/
theorem isSome_given?_iff : (given? lookup name).isSome = true ↔ IsGiven lookup name := by
  rw [Option.isSome_iff_exists]
  exact exists_congr fun value => given?_eq_some_iff

instance : Decidable (IsGiven lookup name) :=
  decidable_of_iff _ isSome_given?_iff

/-- Nothing is found exactly if the setting is not given. -/
theorem given?_eq_none_iff : given? lookup name = none ↔ ¬IsGiven lookup name := by
  rw [← isSome_given?_iff, Option.not_isSome_iff_eq_none]

/-! ## Missing settings -/

/-- The first of some settings that is not given. -/
def firstMissing? (lookup : Lookup) (names : List String) : Option String :=
  names.find? fun name => ¬IsGiven lookup name

/-- A setting alone is missing if it is not given. -/
theorem firstMissing?_singleton :
    firstMissing? lookup [name] = if IsGiven lookup name then none else some name := by
  simp only [firstMissing?, List.find?_singleton, decide_not, Bool.not_eq_true', decide_eq_false_iff_not,
    ite_not]

/-- What is missing of the settings behind others counts only if none of those is missing. -/
theorem firstMissing?_append {names names' : List String} : firstMissing? lookup (names ++ names') =
    (firstMissing? lookup names).or (firstMissing? lookup names') :=
  List.find?_append

/-- None is missing exactly if all are given. -/
theorem firstMissing?_eq_none_iff {names : List String} :
    firstMissing? lookup names = none ↔ ∀ name ∈ names, IsGiven lookup name := by
  simp only [firstMissing?, List.find?_eq_none, decide_eq_true_eq, not_not]

/-- Something fails exactly if one of the settings is not given, and then the first of them is named. -/
def Demands (lookup : Lookup) (names : List String) (result : Except MissingSetting α) : Prop :=
  ∀ missing, result = .error missing ↔ firstMissing? lookup names = some missing.name

/-- What fails for no lookup demands nothing. -/
theorem demands_ok (lookup : Lookup) (a : α) : Demands lookup [] (.ok a) := by
  intro missing
  constructor <;> nofun

/-- A setting that must be there is demanded. -/
theorem demands_required (lookup : Lookup) (name : String) :
    Demands lookup [name] (required lookup name) := by
  rintro ⟨missing⟩
  rw [firstMissing?_singleton, required]
  rcases hfound : given? lookup name with _ | value
  · rw [if_neg (given?_eq_none_iff.mp hfound), Option.some.injEq, Except.error.injEq,
      MissingSetting.mk.injEq]
  · have hgiven : IsGiven lookup name := ⟨value, given?_eq_some_iff.mp hfound⟩
    rw [if_pos hgiven]
    constructor <;> nofun

/-- Where something succeeds, none is missing. -/
theorem Demands.firstMissing?_eq_none {a : α} {names : List String}
    (h : Demands lookup names (.ok a)) : firstMissing? lookup names = none := by
  rw [Option.eq_none_iff_forall_ne_some]
  intro first hfirst
  cases (h ⟨first⟩).mpr hfirst

/-- **One step behind another** demands what both demand, in their order. -/
theorem Demands.bind {x : Except MissingSetting α} {f : α → Except MissingSetting β}
    {names names' : List String} (hx : Demands lookup names x)
    (hf : ∀ a, Demands lookup names' (f a)) : Demands lookup (names ++ names') (x >>= f) := by
  intro missing
  rw [firstMissing?_append]
  cases x with
  | error first =>
    have hfirst := (hx first).mp rfl
    have hbind : (Except.error first >>= f) = .error first := rfl
    rw [hbind, hfirst, Option.some_or, ← hfirst, ← hx missing, Except.error.injEq, Except.error.injEq]
  | ok a =>
    rw [hx.firstMissing?_eq_none, Option.none_or]
    exact hf a missing

/-- A setting that must be there is demanded before all that comes behind it. -/
theorem demands_required_bind {f : String → Except MissingSetting β} {names : List String}
    (hf : ∀ value, Demands lookup names (f value)) :
    Demands lookup (name :: names) (required lookup name >>= f) :=
  (demands_required lookup name).bind hf

/-- Something succeeds exactly if all that it demands is given. -/
theorem Demands.exists_ok_iff {x : Except MissingSetting α} {names : List String}
    (h : Demands lookup names x) : (∃ a, x = .ok a) ↔ ∀ name ∈ names, IsGiven lookup name := by
  rw [← firstMissing?_eq_none_iff]
  cases x with
  | error first =>
    rw [(h first).mp rfl]
    constructor <;> nofun
  | ok a => exact iff_of_true ⟨a, rfl⟩ h.firstMissing?_eq_none

/-! ## What is needed -/

/-- The settings of which the address of the database is put together, where they must be there. -/
def neededParts : List String :=
  ["DATABASE_MIGRATE_USER", "DATABASE_MIGRATE_PASSWORD", "APPLICATION_DB"]

/-- The settings that must be there, in the order in which they are looked up: those of the address only if
it is not given as a whole. -/
def needed (lookup : Lookup) : List String :=
  (if IsGiven lookup "DATABASE_URL" then [] else neededParts) ++ ["JWT_SECRET", "GOOGLE_CLIENT_ID"]

/-- The address of the database demands its parts where it is not given as a whole. -/
theorem demands_databaseUrlOf (lookup : Lookup) :
    Demands lookup (if IsGiven lookup "DATABASE_URL" then [] else neededParts)
      (databaseUrlOf lookup) := by
  rw [databaseUrlOf]
  rcases hfound : given? lookup "DATABASE_URL" with _ | url
  · rw [if_neg (given?_eq_none_iff.mp hfound)]
    refine demands_required_bind fun user => ?_
    refine demands_required_bind fun password => ?_
    refine demands_required_bind fun database => ?_
    exact demands_ok lookup _
  · have hgiven : IsGiven lookup "DATABASE_URL" := ⟨url, given?_eq_some_iff.mp hfound⟩
    rw [if_pos hgiven]
    exact demands_ok lookup url

/-- **The settings demand what is needed.** -/
theorem demands_ofLookup (lookup : Lookup) : Demands lookup (needed lookup) (ofLookup lookup) := by
  unfold ofLookup needed
  refine (demands_databaseUrlOf lookup).bind fun url => ?_
  refine demands_required_bind fun secret => ?_
  refine demands_required_bind fun client => ?_
  exact demands_ok lookup _

/-- All that is needed is given. -/
theorem forall_needed_iff : (∀ name ∈ needed lookup, IsGiven lookup name) ↔
    (IsGiven lookup "DATABASE_URL" ∨ IsGiven lookup "DATABASE_MIGRATE_USER" ∧
      IsGiven lookup "DATABASE_MIGRATE_PASSWORD" ∧ IsGiven lookup "APPLICATION_DB") ∧
    IsGiven lookup "JWT_SECRET" ∧ IsGiven lookup "GOOGLE_CLIENT_ID" := by
  unfold needed neededParts
  by_cases hurl : IsGiven lookup "DATABASE_URL"
  · simp [hurl]
  · simp [hurl, and_assoc]

/-- The settings that can be missing. -/
def decisive : List String :=
  "DATABASE_URL" :: neededParts ++ ["JWT_SECRET", "GOOGLE_CLIENT_ID"]

/-- **No other setting makes a lookup fail**, and these only by being given or not. -/
theorem ofLookup_eq_error_congr
    (h : ∀ name ∈ decisive, IsGiven lookup' name ↔ IsGiven lookup name) (missing : MissingSetting) :
    ofLookup lookup' = .error missing ↔ ofLookup lookup = .error missing := by
  have hneeded : needed lookup' = needed lookup := by
    simp only [needed, h "DATABASE_URL" (by decide)]
  have hsub : ∀ name ∈ needed lookup, name ∈ decisive := by
    intro name hname
    unfold needed at hname
    split at hname
    · exact List.mem_append_right _ hname
    · exact List.mem_cons_of_mem _ hname
  have hfirst : firstMissing? lookup' (needed lookup) = firstMissing? lookup (needed lookup) := by
    refine List.find?_congr fun name hname => ?_
    simp only [h name (hsub name hname)]
  rw [demands_ofLookup lookup' missing, demands_ofLookup lookup missing, hneeded, hfirst]

/-! ## Numbers -/

/-- What a number comes to that may be set by a numeral: the number of that numeral if it is not too large,
and otherwise the usual number. -/
inductive Obtained (most usual : Nat) (set? : Option String) : Nat → Prop where
  | read {text : String} {n : Nat} (hset : set? = some text) (htext : Text.IsUnsigned text n)
      (hle : n ≤ most) : Obtained most usual set? n
  | usual (h : ∀ text n, set? = some text → Text.IsUnsigned text n → most < n) :
      Obtained most usual set? usual

/-- **A number that cannot be read has its usual value**, and no other number has. -/
theorem getD_unsigned?_eq_iff {most usual n : Nat} {set? : Option String} :
    (set? >>= Text.unsigned? most).getD usual = n ↔ Obtained most usual set? n := by
  rcases hread : set? >>= Text.unsigned? most with _ | m
  -- Nothing was read, so any numeral that is set is too large.
  · have hnone : ∀ text n, set? = some text → Text.IsUnsigned text n → most < n := by
      rintro text n rfl htext
      by_contra hle
      have hsome := Text.unsigned?_eq_some_iff.mpr ⟨htext, Nat.le_of_not_lt hle⟩
      rw [Option.bind_eq_bind, Option.bind_some, hsome] at hread
      cases hread
    constructor
    · rintro rfl
      exact .usual hnone
    · rintro (⟨hset, htext, hle⟩ | -)
      · exact absurd (hnone _ _ hset htext) (Nat.not_lt.mpr hle)
      · rfl
  · obtain ⟨text, rfl, hm⟩ := Option.bind_eq_some_iff.mp hread
    obtain ⟨htext, hle⟩ := Text.unsigned?_eq_some_iff.mp hm
    constructor
    · rintro rfl
      exact .read rfl htext hle
    · rintro (⟨hset, htext', hle'⟩ | h)
      · cases hset
        rw [Text.unsigned?_eq_some_iff.mpr ⟨htext', hle'⟩] at hm
        exact (Option.some.inj hm).symm
      · exact absurd (h text m rfl htext) (Nat.not_lt.mpr hle)

/-- What a number comes to is not too large. -/
theorem Obtained.le {most usual n : Nat} {set? : Option String} (h : Obtained most usual set? n)
    (husual : usual ≤ most) : n ≤ most := by
  cases h with
  | read _ _ hle => exact hle
  | usual _ => exact husual

/-- What succeeds in two steps succeeds in each. -/
theorem exists_of_bind_eq_ok {ε : Type} {x : Except ε α} {f : α → Except ε β} {b : β}
    (h : x >>= f = .ok b) : ∃ a, x = .ok a ∧ f a = .ok b := by
  cases x with
  | error first => cases h
  | ok a => exact ⟨a, rfl, h⟩

variable {s : Settings}

/-- The numbers of settings. -/
theorem ofLookup_numbers (h : ofLookup lookup = .ok s) :
    s.port = UInt16.ofNat ((lookup "PORT" >>= Text.unsigned? 65535).getD 5000) ∧
      s.databaseConnections =
        UInt32.ofNat ((lookup "DATABASE_MAX_CONNECTIONS" >>= Text.unsigned? 4294967295).getD 10) := by
  obtain ⟨url, -, h⟩ := exists_of_bind_eq_ok h
  obtain ⟨secret, -, h⟩ := exists_of_bind_eq_ok h
  obtain ⟨client, -, h⟩ := exists_of_bind_eq_ok h
  cases h
  exact ⟨rfl, rfl⟩

/-- The port is the number that is set, or the usual one. -/
theorem toNat_port_eq_iff (h : ofLookup lookup = .ok s) (n : Nat) :
    s.port.toNat = n ↔ Obtained 65535 5000 (lookup "PORT") n := by
  have hle : (lookup "PORT" >>= Text.unsigned? 65535).getD 5000 ≤ 65535 :=
    (getD_unsigned?_eq_iff.mp rfl).le (by decide)
  rw [(ofLookup_numbers h).1, UInt16.toNat_ofNat_of_lt' (Nat.lt_succ_of_le hle), getD_unsigned?_eq_iff]

/-- How many connections there may be is the number that is set, or the usual one. -/
theorem toNat_databaseConnections_eq_iff (h : ofLookup lookup = .ok s) (n : Nat) :
    s.databaseConnections.toNat = n ↔
      Obtained 4294967295 10 (lookup "DATABASE_MAX_CONNECTIONS") n := by
  have hle : (lookup "DATABASE_MAX_CONNECTIONS" >>= Text.unsigned? 4294967295).getD 10 ≤ 4294967295 :=
    (getD_unsigned?_eq_iff.mp rfl).le (by decide)
  rw [(ofLookup_numbers h).2, UInt32.toNat_ofNat_of_lt' (Nat.lt_succ_of_le hle), getD_unsigned?_eq_iff]

/-! ## An address as a whole -/

/-- The settings of which the address of the database is put together. -/
def addressParts : List String :=
  ["DATABASE_MIGRATE_USER", "DATABASE_MIGRATE_PASSWORD", "DATABASE_HOST", "DATABASE_PORT",
    "APPLICATION_DB"]

/-- **With an address as a whole its parts do not matter.** -/
theorem ofLookup_congr (hurl : IsGiven lookup "DATABASE_URL")
    (h : ∀ name, name ∉ addressParts → lookup' name = lookup name) :
    ofLookup lookup' = ofLookup lookup := by
  have hgiven (name : String) (hname : name ∉ addressParts) :
      given? lookup' name = given? lookup name := by
    rw [given?, given?, h name hname]
  obtain ⟨url, hfound⟩ := Option.isSome_iff_exists.mp (isSome_given?_iff.mpr hurl)
  have haddress : databaseUrlOf lookup' = databaseUrlOf lookup := by
    simp only [databaseUrlOf, hgiven "DATABASE_URL" (by decide), hfound]
  simp (disch := decide) only [ofLookup, haddress, required, hgiven, h]

/-! ## What a lookup gives -/

/-- **How settings are looked up**: there are settings exactly if all is given that must be there, and
otherwise the first of it that is missing is named. Nothing else makes a lookup fail, and a number that
cannot be read has its usual value. With an address of the database as a whole its parts do not matter. -/
theorem loads_settings (lookup : Lookup) :
    ((∃ s, ofLookup lookup = .ok s) ↔
      (IsGiven lookup "DATABASE_URL" ∨ IsGiven lookup "DATABASE_MIGRATE_USER" ∧
        IsGiven lookup "DATABASE_MIGRATE_PASSWORD" ∧ IsGiven lookup "APPLICATION_DB") ∧
      IsGiven lookup "JWT_SECRET" ∧ IsGiven lookup "GOOGLE_CLIENT_ID") ∧
    (∀ missing, (ofLookup lookup = .error missing ↔
        firstMissing? lookup (needed lookup) = some missing.name) ∧
      missing.message = missing.name ++ " is required") ∧
    (∀ lookup', (∀ name ∈ decisive, IsGiven lookup' name ↔ IsGiven lookup name) →
      ∀ missing, ofLookup lookup' = .error missing ↔ ofLookup lookup = .error missing) ∧
    (∀ s, ofLookup lookup = .ok s → ∀ n,
      (s.port.toNat = n ↔ Obtained 65535 5000 (lookup "PORT") n) ∧
      (s.databaseConnections.toNat = n ↔
        Obtained 4294967295 10 (lookup "DATABASE_MAX_CONNECTIONS") n)) ∧
    (IsGiven lookup "DATABASE_URL" →
      ∀ lookup', (∀ name, name ∉ addressParts → lookup' name = lookup name) →
        ofLookup lookup' = ofLookup lookup) := by
  refine ⟨?_, ?_, ?_, ?_, ?_⟩
  · rw [(demands_ofLookup lookup).exists_ok_iff, forall_needed_iff]
  · exact fun missing => ⟨demands_ofLookup lookup missing, rfl⟩
  · exact fun lookup' => ofLookup_eq_error_congr
  · exact fun s hs n => ⟨toNat_port_eq_iff hs n, toNat_databaseConnections_eq_iff hs n⟩
  · exact fun hurl lookup' => ofLookup_congr hurl

/-- A lookup that gives an address as a whole, a host beside it, a port, and too many connections. -/
def sampleLookup (host : String) : Lookup := fun name =>
  [("DATABASE_URL", "postgres://localhost/app"), ("DATABASE_HOST", host), ("JWT_SECRET", "secret"),
    ("GOOGLE_CLIENT_ID", "client"), ("PORT", "+08443"),
    ("DATABASE_MAX_CONNECTIONS", "4294967296")].lookup name

/-- A lookup that gives some parts of the address, with a port, and neither the database nor a secret. -/
def samplePartial (port : String) : Lookup := fun name =>
  [("DATABASE_URL", ""), ("DATABASE_MIGRATE_USER", "migrator"), ("DATABASE_MIGRATE_PASSWORD", "hunter2"),
    ("APPLICATION_DB", ""), ("PORT", port)].lookup name

/-- With an address as a whole another host changes nothing; without one the database is the first that is
missing, whatever the port is. -/
theorem loads_settings_sample :
    (IsGiven (sampleLookup "left") "DATABASE_URL" ∧
      (∀ name, name ∉ addressParts → sampleLookup "right" name = sampleLookup "left" name) ∧
      ∃ s, ofLookup (sampleLookup "left") = .ok s ∧ ofLookup (sampleLookup "right") = .ok s ∧
        s.port.toNat = 8443 ∧ s.databaseConnections.toNat = 10) ∧
    (∀ name ∈ decisive, IsGiven (samplePartial "-") name ↔ IsGiven (samplePartial "80") name) ∧
      ofLookup (samplePartial "80") = .error ⟨"APPLICATION_DB"⟩ ∧
      ofLookup (samplePartial "-") = .error ⟨"APPLICATION_DB"⟩ := by
  obtain ⟨hok, -, -, hnumbers, hsame⟩ := loads_settings (sampleLookup "left")
  obtain ⟨-, hmissing, hframe, -, -⟩ := loads_settings (samplePartial "80")
  have hurl : IsGiven (sampleLookup "left") "DATABASE_URL" := by decide
  have hhost (name : String) (hname : name ∉ addressParts) :
      sampleLookup "right" name = sampleLookup "left" name := by
    have hne : (name == "DATABASE_HOST") = false := by
      rw [beq_eq_false_iff_ne]
      rintro rfl
      exact hname (by decide)
    simp only [sampleLookup, List.lookup_cons, hne]
  have hpartial : ∀ name ∈ decisive,
      IsGiven (samplePartial "-") name ↔ IsGiven (samplePartial "80") name := by decide
  obtain ⟨s, hs⟩ := hok.mpr ⟨.inl hurl, by decide, by decide⟩
  have hport : Text.IsUnsigned "+08443" 8443 ∧ 8443 ≤ 65535 :=
    Text.unsigned?_eq_some_iff.mp (by decide)
  have hconnections (text : String) (n : Nat) (htext : some "4294967296" = some text)
      (hn : Text.IsUnsigned text n) : 4294967295 < n := by
    cases htext
    by_contra hle
    have hread := Text.unsigned?_eq_some_iff.mpr ⟨hn, Nat.le_of_not_lt hle⟩
    rw [(by decide : Text.unsigned? 4294967295 "4294967296" = none)] at hread
    cases hread
  have hfirst := (hmissing ⟨"APPLICATION_DB"⟩).1.mpr (by decide)
  refine ⟨⟨hurl, hhost, s, hs, (hsame hurl _ hhost).trans hs, ?_, ?_⟩, hpartial, hfirst, ?_⟩
  · exact (hnumbers s hs 8443).1.mpr (.read rfl hport.1 hport.2)
  · exact (hnumbers s hs 10).2.mpr (.usual hconnections)
  · exact (hframe _ hpartial _).mpr hfirst

end TenantOnboarding.Settings
