import TenantOnboarding.Proofs.Text.Cutting
import TenantOnboarding.Proofs.Text.RoundTrip
import TenantOnboarding.Settings.Basic

/-!
# The address of the database

The address is put together from its parts as they are, with nothing escaped. `Address.ofUrl?` reads it
the other way: it is cut at the marks between the parts, and percent signs with two digits are bytes.

* `percentDecoded_eq_iff`: a text stands for itself exactly if it has no such escape.
* **`Parts.ofUrl?_url_iff`**: the parts are read back exactly if no mark stands where it would be cut at,
  and nothing is an escape (`Parts.Plain`). Where they are not read back it is because reading never adds
  to a text: parts that come back whole leave no room for anything else.
* **`assembled_url_iff`** says this of the settings, and `credentials_lost` has a password with which the
  settings name another host and another database.
-/

namespace TenantOnboarding.Settings

open Text

/-! ## Percent signs -/

/-- The bytes that a text stands for: a percent sign and two hexadecimal digits are one byte, everything
else stands for itself. -/
def percentDecoded : List Char → List UInt8
  | '%' :: a :: b :: rest =>
    match hexDigit? a, hexDigit? b with
    | some x, some y => UInt8.ofNat (x * 16 + y) :: percentDecoded rest
    | _, _ => UInt8.ofNat '%'.toNat :: percentDecoded (a :: b :: rest)
  | c :: rest => String.utf8EncodeChar c ++ percentDecoded rest
  | [] => []

/-- A percent sign with two hexadecimal digits behind it stands in a text. -/
inductive HasEscape : List Char → Prop where
  | here {a b : Char} {rest : List Char} (ha : (hexDigit? a).isSome) (hb : (hexDigit? b).isSome) :
      HasEscape ('%' :: a :: b :: rest)
  | later {c : Char} {rest : List Char} (h : HasEscape rest) : HasEscape (c :: rest)

/-- The number of bytes of a text. -/
def byteLength (cs : List Char) : Nat := (Utf8.encode cs).length

/-- Every character has a byte. -/
theorem byteLength_cons (c : Char) (cs : List Char) :
    byteLength (c :: cs) = c.utf8Size + byteLength cs := by
  rw [byteLength, byteLength, Utf8.encode, Utf8.encode, List.flatMap_cons, List.length_append,
    String.length_utf8EncodeChar]

/-- The bytes of two texts one behind the other. -/
theorem byteLength_append (cs ds : List Char) :
    byteLength (cs ++ ds) = byteLength cs + byteLength ds := by
  rw [byteLength, byteLength, byteLength, Utf8.encode, Utf8.encode, Utf8.encode,
    List.flatMap_append, List.length_append]

/-- **Reading never adds to a text**, and an escape makes it shorter. -/
theorem length_percentDecoded (cs : List Char) :
    (percentDecoded cs).length ≤ byteLength cs ∧
      (HasEscape cs → (percentDecoded cs).length < byteLength cs) := by
  fun_induction percentDecoded cs with
  | case1 a b rest x y hb ha ih =>
    have ha := a.utf8Size_pos
    have hb := b.utf8Size_pos
    simp only [List.length_cons, byteLength_cons]
    exact ⟨by omega, fun _ => by omega⟩
  | case2 a b rest hdigits ih =>
    have hsize : '%'.utf8Size = 1 := by decide
    rw [List.length_cons, byteLength_cons, hsize]
    refine ⟨by omega, fun hescape => ?_⟩
    cases hescape with
    | here ha hb =>
      obtain ⟨x, hx⟩ := Option.isSome_iff_exists.mp ha
      obtain ⟨y, hy⟩ := Option.isSome_iff_exists.mp hb
      exact absurd hy (hdigits x y hx)
    | later hescape =>
      have hlt := ih.2 hescape
      omega
  | case3 c rest hpercent ih =>
    rw [List.length_append, String.length_utf8EncodeChar, byteLength_cons]
    refine ⟨by omega, fun hescape => ?_⟩
    cases hescape with
    | here ha hb => exact absurd rfl (hpercent _ _ _ rfl)
    | later hescape =>
      have hlt := ih.2 hescape
      omega
  | case4 =>
    refine ⟨Nat.zero_le _, ?_⟩
    rintro ⟨⟩

/-- **A text stands for itself exactly if it has no escape.** -/
theorem percentDecoded_eq_iff {cs : List Char} :
    percentDecoded cs = Utf8.encode cs ↔ ¬HasEscape cs := by
  constructor
  · intro h hescape
    have hlt := (length_percentDecoded cs).2 hescape
    rw [h, byteLength] at hlt
    exact Nat.lt_irrefl _ hlt
  · intro h
    fun_induction percentDecoded cs with
    | case1 a b rest x y hb ha ih =>
      exact absurd (.here (by rw [ha]; rfl) (by rw [hb]; rfl)) h
    | case2 a b rest hdigits ih =>
      rw [ih fun hescape => h (.later hescape)]
      rfl
    | case3 c rest hpercent ih =>
      rw [ih fun hescape => h (.later hescape)]
      rfl
    | case4 => rfl

/-! ## Addresses -/

/-- What an address says, in bytes. -/
structure Address where
  user : List UInt8
  password : List UInt8
  host : List UInt8
  port : List UInt8
  database : List UInt8
  deriving Repr, DecidableEq

/-- What stands behind the scheme and its two slashes. -/
def behindScheme? (cs : List Char) : Option (List Char) :=
  match cutFirst? '/' cs with
  | some (_, '/' :: rest) => some rest
  | _ => none

/-- What an address says, if all its parts are there: behind the two slashes the authority goes up to the
first slash, the user's name and password up to its last `@`, and the name up to the first colon. -/
def Address.ofUrl? (url : String) : Option Address := do
  let rest ← behindScheme? url.toList
  let (authority, database) ← cutFirst? '/' rest
  let (person, place) ← cutLast? '@' authority
  let (user, password) ← cutFirst? ':' person
  let (host, port) ← cutLast? ':' place
  return {
    user := percentDecoded user
    password := percentDecoded password
    host := percentDecoded host
    port := percentDecoded port
    database := percentDecoded database }

/-- The parts of an address. -/
structure Parts where
  user : String
  password : String
  host : String
  port : String
  database : String
  deriving Repr, DecidableEq

namespace Parts

/-- The address that is put together. -/
def url (p : Parts) : String :=
  assembleUrl p.user p.password p.host p.port p.database

/-- What the address is to say. -/
def address (p : Parts) : Address :=
  ⟨Utf8.ofString p.user, Utf8.ofString p.password, Utf8.ofString p.host, Utf8.ofString p.port,
    Utf8.ofString p.database⟩

/-- No part has a mark at which an address is cut, and none has an escape. -/
structure Plain (p : Parts) : Prop where
  user_marks : ':' ∉ p.user.toList ∧ '/' ∉ p.user.toList
  password_marks : '/' ∉ p.password.toList
  host_marks : '@' ∉ p.host.toList ∧ '/' ∉ p.host.toList
  port_marks : ':' ∉ p.port.toList ∧ '@' ∉ p.port.toList ∧ '/' ∉ p.port.toList
  no_escape : ∀ s ∈ [p.user, p.password, p.host, p.port, p.database], ¬HasEscape s.toList

variable {p : Parts}

/-- The text of an address with these parts, from behind its two slashes. -/
def written (user password host port database : List Char) : List Char :=
  user ++ ':' :: (password ++ '@' :: (host ++ ':' :: (port ++ '/' :: database)))

/-- The parts stand behind the two slashes of the scheme. -/
theorem toList_url (p : Parts) : p.url.toList = "postgres://".toList ++
    written p.user.toList p.password.toList p.host.toList p.port.toList p.database.toList := by
  unfold url assembleUrl written
  simp only [String.toList_append, List.append_assoc]
  rfl

/-- Behind the slashes stand the parts. -/
theorem behindScheme?_url (p : Parts) : behindScheme? p.url.toList =
    some (written p.user.toList p.password.toList p.host.toList p.port.toList p.database.toList) := by
  generalize hrest :
    written p.user.toList p.password.toList p.host.toList p.port.toList p.database.toList = rest
  have hscheme : '/' ∉ "postgres:".toList := by decide
  have hurl : p.url.toList = "postgres:".toList ++ '/' :: '/' :: rest := by
    rw [toList_url, hrest]
    rfl
  have hcut := cutFirst?_eq_some_iff.mpr ⟨hurl, hscheme⟩
  simp only [behindScheme?, hcut]

/-- What an address says stands in it, between its marks. -/
theorem ofUrl?_eq_some_iff {a : Address} : Address.ofUrl? p.url = some a ↔
    ∃ user password host port database,
      written p.user.toList p.password.toList p.host.toList p.port.toList p.database.toList =
        written user password host port database ∧
      '/' ∉ user ++ ':' :: password ++ '@' :: (host ++ ':' :: port) ∧ '@' ∉ host ++ ':' :: port ∧
      ':' ∉ user ∧ ':' ∉ port ∧
      a = ⟨percentDecoded user, percentDecoded password, percentDecoded host, percentDecoded port,
        percentDecoded database⟩ := by
  simp only [Address.ofUrl?, behindScheme?_url, Option.bind_eq_bind, Option.bind_some,
    Option.bind_eq_some_iff, Option.pure_def, Option.some.injEq, Prod.exists, cutFirst?_eq_some_iff,
    cutLast?_eq_some_iff]
  constructor
  · rintro ⟨authority, database, ⟨hrest, hauthority⟩, person, place, ⟨rfl, hplace⟩, user, password,
      ⟨rfl, huser⟩, host, port, ⟨rfl, hport⟩, rfl⟩
    refine ⟨user, password, host, port, database, ?_, hauthority, hplace, huser, hport, rfl⟩
    rw [hrest, written]
    simp only [List.append_assoc, List.cons_append]
  · rintro ⟨user, password, host, port, database, hrest, hauthority, hplace, huser, hport, rfl⟩
    refine ⟨_, database, ⟨?_, hauthority⟩, _, _, ⟨rfl, hplace⟩, user, password, ⟨rfl, huser⟩, host,
      port, ⟨rfl, hport⟩, rfl⟩
    rw [hrest, written]
    simp only [List.append_assoc, List.cons_append]

/-- The bytes of the written parts are those of the parts and of the marks between them. -/
theorem byteLength_written (user password host port database : List Char) :
    byteLength (written user password host port database) =
      byteLength user + byteLength password + byteLength host + byteLength port +
        byteLength database + byteLength [':', '@', ':', '/'] := by
  have hnil : byteLength [] = 0 := rfl
  simp only [written, byteLength_append, byteLength_cons, hnil]
  omega

/-- Texts of equal length that begin the same text are the same. -/
theorem eq_of_byteLength {cs ds xs ys : List Char} {c : Char} (h : cs ++ c :: xs = ds ++ c :: ys)
    (hlength : byteLength cs = byteLength ds) : cs = ds ∧ xs = ys := by
  have hbytes : Utf8.encode cs ++ Utf8.encode (c :: xs) = Utf8.encode ds ++ Utf8.encode (c :: ys) := by
    have hencode := congrArg Utf8.encode h
    rwa [Utf8.encode, Utf8.encode, List.flatMap_append, List.flatMap_append] at hencode
  obtain rfl := Utf8.encode_injective (List.append_inj_left hbytes hlength)
  exact ⟨rfl, List.tail_eq_of_cons_eq (List.append_cancel_left h)⟩

/-- Written parts that are as long as others and together the same text are the same parts. -/
theorem written_inj {user password host port database user' password' host' port' database' : List Char}
    (h : written user password host port database = written user' password' host' port' database')
    (huser : byteLength user = byteLength user') (hpassword : byteLength password = byteLength password')
    (hhost : byteLength host = byteLength host') (hport : byteLength port = byteLength port') :
    user = user' ∧ password = password' ∧ host = host' ∧ port = port' ∧ database = database' := by
  obtain ⟨rfl, h₁⟩ := eq_of_byteLength h huser
  obtain ⟨rfl, h₂⟩ := eq_of_byteLength h₁ hpassword
  obtain ⟨rfl, h₃⟩ := eq_of_byteLength h₂ hhost
  obtain ⟨rfl, rfl⟩ := eq_of_byteLength h₃ hport
  exact ⟨rfl, rfl, rfl, rfl, rfl⟩

/-- Where a text is read as the bytes of another one, it is at least as long. -/
theorem byteLength_le_of_percentDecoded {cs ds : List Char} (h : Utf8.encode ds = percentDecoded cs) :
    byteLength ds ≤ byteLength cs := by
  rw [byteLength, h]
  exact (length_percentDecoded cs).1

/-- **The parts of an address are read back exactly if they are plain.** -/
theorem ofUrl?_url_iff : Address.ofUrl? p.url = some p.address ↔ p.Plain := by
  rw [ofUrl?_eq_some_iff]
  constructor
  · rintro ⟨user, password, host, port, database, hwritten, hauthority, hplace, huser, hport,
      haddress⟩
    obtain ⟨hu, hp, hh, ho, hd⟩ := Address.mk.inj haddress
    -- No part was read from fewer bytes than it has, and all parts together have equally many.
    have hlength := congrArg byteLength hwritten
    rw [byteLength_written, byteLength_written] at hlength
    have hu' := byteLength_le_of_percentDecoded hu
    have hp' := byteLength_le_of_percentDecoded hp
    have hh' := byteLength_le_of_percentDecoded hh
    have ho' := byteLength_le_of_percentDecoded ho
    have hd' := byteLength_le_of_percentDecoded hd
    obtain ⟨rfl, rfl, rfl, rfl, rfl⟩ :=
      written_inj hwritten (by omega) (by omega) (by omega) (by omega)
    simp only [List.mem_append, List.mem_cons, not_or] at hauthority hplace
    refine ⟨⟨huser, hauthority.1.1⟩, hauthority.1.2.2, ⟨hplace.1, hauthority.2.2.1⟩,
      ⟨hport, hplace.2.2, hauthority.2.2.2.2⟩, ?_⟩
    simp only [List.forall_mem_cons, List.not_mem_nil, false_implies, implies_true, and_true]
    exact ⟨percentDecoded_eq_iff.mp hu.symm, percentDecoded_eq_iff.mp hp.symm,
      percentDecoded_eq_iff.mp hh.symm, percentDecoded_eq_iff.mp ho.symm,
      percentDecoded_eq_iff.mp hd.symm⟩
  · intro h
    have hself (s : String) (hs : s ∈ [p.user, p.password, p.host, p.port, p.database]) :
        Utf8.ofString s = percentDecoded s.toList :=
      (percentDecoded_eq_iff.mpr (h.no_escape s hs)).symm
    refine ⟨_, _, _, _, _, rfl, ?_, ?_, h.user_marks.1, h.port_marks.1, ?_⟩
    · simp only [List.mem_append, List.mem_cons, not_or]
      exact ⟨⟨h.user_marks.2, by decide, h.password_marks⟩, by decide, h.host_marks.2, by decide,
        h.port_marks.2.2⟩
    · simp only [List.mem_append, List.mem_cons, not_or]
      exact ⟨h.host_marks.1, by decide, h.port_marks.2.1⟩
    · rw [address, hself p.user (by simp), hself p.password (by simp), hself p.host (by simp),
        hself p.port (by simp), hself p.database (by simp)]

/-- Plain parts that give the same address are the same. -/
theorem Plain.url_inj {q : Parts} (hp : p.Plain) (hq : q.Plain) (h : p.url = q.url) : p = q := by
  have haddress : some p.address = some q.address := by
    rw [← ofUrl?_url_iff.mpr hp, ← ofUrl?_url_iff.mpr hq, h]
  obtain ⟨hu, hp, hh, ho, hd⟩ := Address.mk.inj (Option.some.inj haddress)
  cases p
  cases q
  rw [Parts.mk.injEq]
  exact ⟨Utf8.ofString_injective hu, Utf8.ofString_injective hp, Utf8.ofString_injective hh,
    Utf8.ofString_injective ho, Utf8.ofString_injective hd⟩

end Parts

/-! ## Settings -/

/-- A lookup has these parts for the address, no address as a whole, and all else that must be there. -/
structure Assembles (lookup : Lookup) (p : Parts) : Prop where
  no_url : given? lookup "DATABASE_URL" = none
  user : given? lookup "DATABASE_MIGRATE_USER" = some p.user
  password : given? lookup "DATABASE_MIGRATE_PASSWORD" = some p.password
  host : (lookup "DATABASE_HOST").getD "postgres" = p.host
  port : (lookup "DATABASE_PORT").getD "5432" = p.port
  database : given? lookup "APPLICATION_DB" = some p.database
  secret : (given? lookup "JWT_SECRET").isSome
  client : (given? lookup "GOOGLE_CLIENT_ID").isSome

/-- A setting that is given is found. -/
theorem required_of_given {lookup : Lookup} {name value : String}
    (h : given? lookup name = some value) : required lookup name = .ok value := by
  rw [required, h]

/-- The settings have the address of the parts. -/
theorem Assembles.exists_ofLookup {lookup : Lookup} {p : Parts} (h : Assembles lookup p) :
    ∃ s, ofLookup lookup = .ok s ∧ s.databaseUrl = p.url := by
  obtain ⟨secret, hsecret⟩ := Option.isSome_iff_exists.mp h.secret
  obtain ⟨client, hclient⟩ := Option.isSome_iff_exists.mp h.client
  have hurl : databaseUrlOf lookup = .ok p.url := by
    simp only [databaseUrlOf, h.no_url, required_of_given h.user, required_of_given h.password,
      required_of_given h.database, h.host, h.port]
    rfl
  simp only [ofLookup, hurl, required_of_given hsecret, required_of_given hclient]
  exact ⟨_, rfl, rfl⟩

/-- **The address of the settings keeps its parts exactly if they are plain**, and plain parts that give
one address are the same. -/
theorem assembled_url_iff (lookup : Lookup) (p : Parts) (h : Assembles lookup p) :
    ∃ s, ofLookup lookup = .ok s ∧
      (Address.ofUrl? s.databaseUrl = some p.address ↔ p.Plain) ∧
      (p.Plain → ∀ lookup' q s', Assembles lookup' q → q.Plain → ofLookup lookup' = .ok s' →
        s'.databaseUrl = s.databaseUrl → q = p) := by
  obtain ⟨s, hs, hurl⟩ := h.exists_ofLookup
  refine ⟨s, hs, by rw [hurl, Parts.ofUrl?_url_iff], ?_⟩
  intro hp lookup' q s' h' hq hs' hsame
  obtain ⟨t, ht, hurl'⟩ := h'.exists_ofLookup
  cases hs'.symm.trans ht
  exact hq.url_inj hp (by rw [← hurl', hsame, hurl])

/-- A lookup with these credentials, and with nothing else but what must be there. -/
def sampleCredentials (user password : String) : Lookup := fun name =>
  [("DATABASE_MIGRATE_USER", user), ("DATABASE_MIGRATE_PASSWORD", password),
    ("APPLICATION_DB", "tenants"), ("JWT_SECRET", "secret"), ("GOOGLE_CLIENT_ID", "client")].lookup name

/-- The parts of its address. -/
def sampleParts (user password : String) : Parts :=
  ⟨user, password, "postgres", "5432", "tenants"⟩

/-- The lookup has these parts. -/
theorem assembles_sampleCredentials {user password : String} (huser : user.isEmpty = false)
    (hpassword : password.isEmpty = false) :
    Assembles (sampleCredentials user password) (sampleParts user password) where
  no_url := rfl
  user := by
    show (some user).filter (!·.isEmpty) = some user
    rw [Option.filter_some, huser]
    rfl
  password := by
    show (some password).filter (!·.isEmpty) = some password
    rw [Option.filter_some, hpassword]
    rfl
  host := rfl
  port := rfl
  database := rfl
  secret := rfl
  client := rfl

/-- A password may have an `@`, a colon and a percent sign without digits. -/
theorem assembled_url_iff_sample :
    Assembles (sampleCredentials "migrator" "h@nter:2%") (sampleParts "migrator" "h@nter:2%") ∧
      ∃ s, ofLookup (sampleCredentials "migrator" "h@nter:2%") = .ok s ∧
        Address.ofUrl? s.databaseUrl = some (sampleParts "migrator" "h@nter:2%").address := by
  have h := assembles_sampleCredentials (by decide : "migrator".isEmpty = false)
    (by decide : "h@nter:2%".isEmpty = false)
  obtain ⟨s, hs, hiff, -⟩ := assembled_url_iff _ _ h
  have hescape {cs : List Char} (hdecoded : percentDecoded cs = Utf8.encode cs) : ¬HasEscape cs :=
    percentDecoded_eq_iff.mp hdecoded
  refine ⟨h, s, hs, hiff.mpr ⟨by decide, by decide, by decide, by decide, ?_⟩⟩
  simp only [List.forall_mem_cons, List.not_mem_nil, false_implies, implies_true, and_true]
  exact ⟨hescape (by decide), hescape (by decide), hescape (by decide), hescape (by decide),
    hescape (by decide)⟩

/-- With this password the settings name another host, another port and another database, and with these
names and passwords the settings of two users are the same. -/
theorem credentials_lost :
    Assembles (sampleCredentials "migrator" "p@ss:1/word") (sampleParts "migrator" "p@ss:1/word") ∧
      (∃ s, ofLookup (sampleCredentials "migrator" "p@ss:1/word") = .ok s ∧
        Address.ofUrl? s.databaseUrl = some ⟨Utf8.ofString "migrator", Utf8.ofString "p",
          Utf8.ofString "ss", Utf8.ofString "1", Utf8.ofString "word@postgres:5432/tenants"⟩ ∧
        Address.ofUrl? s.databaseUrl ≠ some (sampleParts "migrator" "p@ss:1/word").address) ∧
      Assembles (sampleCredentials "a:b" "c") (sampleParts "a:b" "c") ∧
      Assembles (sampleCredentials "a" "b:c") (sampleParts "a" "b:c") ∧
      ofLookup (sampleCredentials "a:b" "c") = ofLookup (sampleCredentials "a" "b:c") := by
  have h := assembles_sampleCredentials (by decide : "migrator".isEmpty = false)
    (by decide : "p@ss:1/word".isEmpty = false)
  obtain ⟨s, hs, hurl⟩ := h.exists_ofLookup
  have hread : Address.ofUrl? (sampleParts "migrator" "p@ss:1/word").url =
      some ⟨Utf8.ofString "migrator", Utf8.ofString "p", Utf8.ofString "ss", Utf8.ofString "1",
        Utf8.ofString "word@postgres:5432/tenants"⟩ := by decide +kernel
  refine ⟨h, ⟨s, hs, by rw [hurl, hread], ?_⟩, assembles_sampleCredentials (by decide) (by decide),
    assembles_sampleCredentials (by decide) (by decide), by decide +kernel⟩
  rw [hurl, hread]
  decide

end TenantOnboarding.Settings
