import TenantOnboarding.Identity.Google.Claims
import TenantOnboarding.Organization.Basic
import TenantOnboarding.Proofs.Session.RoundTrip
import TenantOnboarding.Provisioning.State
import TenantOnboarding.Settings.Basic

/-!
# What the service writes in JSON

Users, organizations, memberships, roles, states, claims and the parts of settings are written in JSON,
and read back from there. Settings themselves are written without the secret that signs session tokens, so
that nothing is read back from them.

* `parts` of each kind of record says under which names and shapes its fields are written.
* `Settings.parse_print`: what is written of settings is not read as settings.
* **`entities_round_trip`**: every value of the other types is read back, and the secret changes nothing
  in what is written of settings.
-/

namespace TenantOnboarding

open TenantOnboarding.Json

/-! ## Words -/

/-- A role is taken back from its name. -/
theorem Role.ofName?_name (r : Role) : ofName? r.name = some r := by
  cases r <;> decide

/-- Roles are read back. -/
theorem Role.roundTrips : RoundTrips Role :=
  roundTrips_word rfl (fun _ => rfl) (by intro r; cases r <;> decide) ofName?_name

/-- A state is taken back from its name. -/
theorem Provisioning.State.ofName?_name (s : State) : ofName? s.name = some s := by
  cases s <;> decide

/-- States are read back. -/
theorem Provisioning.State.roundTrips : RoundTrips State :=
  roundTrips_word rfl (fun _ => rfl) (by intro s; cases s <;> decide) ofName?_name

/-- A log format is taken back from its name. -/
theorem LogFormat.ofName?_name (f : LogFormat) : ofName? f.name = some f := by
  cases f <;> decide

/-- The name of a log format is one of the words for it. -/
theorem LogFormat.contains_name (f : LogFormat) : ["pretty", "json"].contains f.name = true := by
  cases f <;> decide

/-- Log formats are read back. -/
theorem LogFormat.roundTrips : RoundTrips LogFormat :=
  roundTrips_word rfl (fun _ => rfl) contains_name ofName?_name

/-! ## Records -/

namespace Organization

/-- An organization as parts of a record. -/
def parts (o : Organization) : List Part :=
  [⟨"id", .int64, .int64 o.id⟩, ⟨"name", .text, .text o.name⟩,
    ⟨"description", .optional .text, .maybeText o.description⟩]

/-- Organizations are laid out as their parts. -/
theorem laid : Laid Organization parts where
  shape_eq _ := rfl
  value_eq _ := rfl
  distinct _ := show ["id", "name", "description"].Nodup by decide
  reads o := by
    simp only [parts, List.forall_mem_cons]
    exact ⟨reads_int64 _, reads_text _, reads_maybeText _, nofun⟩
  taken o := by
    show (do
      return { id := ← (Value.int64 o.id).int64?
               name := ← some o.name
               description := ← (Value.maybeText o.description).optional? Value.text? } :
        Option Organization) = some o
    simp only [int64?_int64, optional?_maybeText]
    rfl

end Organization

namespace AppUser

/-- A user as parts of a record. -/
def parts (u : AppUser) : List Part :=
  [⟨"id", .int64, .int64 u.id⟩, ⟨"email", .text, .text u.email⟩,
    ⟨"organizationId", .int64, .int64 u.organization⟩, ⟨"role", Coded.shape Role, Coded.toValue u.role⟩]

/-- Users are laid out as their parts. -/
theorem laid : Laid AppUser parts where
  shape_eq _ := rfl
  value_eq _ := rfl
  distinct _ := show ["id", "email", "organizationId", "role"].Nodup by decide
  reads u := by
    have hrole : (Role.all.map Role.name).contains u.role.name = true := by cases u.role <;> decide
    simp only [parts, List.forall_mem_cons]
    exact ⟨reads_int64 _, reads_text _, reads_int64 _, reads_word hrole, nofun⟩
  taken u := by
    show (do
      return { id := ← (Value.int64 u.id).int64?
               email := ← some u.email
               organization := ← (Value.int64 u.organization).int64?
               role := ← Role.ofName? u.role.name } : Option AppUser) = some u
    simp only [int64?_int64, Role.ofName?_name]
    rfl

end AppUser

/-- An integer that may be missing is taken back. -/
theorem optional?_int64 (i? : Option Int64) :
    (Value.optional (i?.map .int64)).optional? Value.int64? = some i? :=
  optional?_optional int64?_int64 (fun _ h => by cases h) i?

namespace Membership

/-- A membership as parts of a record. -/
def parts (m : Membership) : List Part :=
  [⟨"appUserId", .optional .int64, .optional (m.user.map .int64)⟩,
    ⟨"organizationId", .optional .int64, .optional (m.organization.map .int64)⟩]

/-- Memberships are laid out as their parts. -/
theorem laid : Laid Membership parts where
  shape_eq _ := rfl
  value_eq _ := rfl
  distinct _ := show ["appUserId", "organizationId"].Nodup by decide
  reads m := by
    simp only [parts, List.forall_mem_cons]
    exact ⟨reads_optional reads_int64 distinct_int64 _, reads_optional reads_int64 distinct_int64 _, nofun⟩
  taken m := by
    show (do
      return { user := ← (Value.optional (m.user.map .int64)).optional? Value.int64?
               organization := ← (Value.optional (m.organization.map .int64)).optional? Value.int64? } :
        Option Membership) = some m
    simp only [optional?_int64]
    rfl

end Membership

namespace Identity

/-- An identity as parts of a record. -/
def parts (i : Identity) : List Part :=
  [⟨"subject", .text, .text i.subject⟩, ⟨"email", .text, .text i.email⟩, ⟨"name", .text, .text i.name⟩]

/-- Identities are laid out as their parts. -/
theorem laid : Laid Identity parts where
  shape_eq _ := rfl
  value_eq _ := rfl
  distinct _ := show ["subject", "email", "name"].Nodup by decide
  reads i := by
    simp only [parts, List.forall_mem_cons]
    exact ⟨reads_text _, reads_text _, reads_text _, nofun⟩
  taken _ := rfl

end Identity

namespace Google

/-- The claims of an identity token as parts of a record. -/
def Claims.parts (c : Claims) : List Part :=
  [⟨"iss", .text, .text c.issuer⟩, ⟨"sub", .text, .text c.subject⟩, ⟨"aud", .text, .text c.audience⟩,
    ⟨"exp", .int64, .int64 c.expires⟩, ⟨"iat", .int64, .int64 c.issuedAt⟩,
    ⟨"email", .optional .text, .maybeText c.email⟩,
    ⟨"email_verified", .optional .boolean, .optional (c.emailVerified.map .boolean)⟩,
    ⟨"name", .optional .text, .maybeText c.name⟩]

/-- The claims of an identity token are laid out as their parts. -/
theorem Claims.laid : Laid Claims parts where
  shape_eq _ := rfl
  value_eq _ := rfl
  distinct _ := show ["iss", "sub", "aud", "exp", "iat", "email", "email_verified", "name"].Nodup by
    decide
  reads c := by
    simp only [parts, List.forall_mem_cons]
    exact ⟨reads_text _, reads_text _, reads_text _, reads_int64 _, reads_int64 _, reads_maybeText _,
      reads_optional reads_boolean distinct_boolean _, reads_maybeText _, nofun⟩
  taken c := by
    have hboolean := optional?_optional (f := Value.boolean?) (g := Value.boolean) (fun _ => rfl)
      (fun _ h => by cases h) c.emailVerified
    show (do
      return { issuer := ← some c.issuer
               subject := ← some c.subject
               audience := ← some c.audience
               expires := ← (Value.int64 c.expires).int64?
               issuedAt := ← (Value.int64 c.issuedAt).int64?
               email := ← (Value.maybeText c.email).optional? Value.text?
               emailVerified := ← (Value.optional (c.emailVerified.map .boolean)).optional? Value.boolean?
               name := ← (Value.maybeText c.name).optional? Value.text? } : Option Claims) = some c
    simp only [int64?_int64, optional?_maybeText, hboolean]
    rfl

end Google

namespace TlsPaths

/-- The paths of a certificate and its key as parts of a record. -/
def parts (p : TlsPaths) : List Part :=
  [⟨"cert_path", .text, .text p.certificates⟩, ⟨"key_path", .text, .text p.key⟩]

/-- Paths are laid out as their parts. -/
theorem laid : Laid TlsPaths parts where
  shape_eq _ := rfl
  value_eq _ := rfl
  distinct _ := show ["cert_path", "key_path"].Nodup by decide
  reads p := by
    simp only [parts, List.forall_mem_cons]
    exact ⟨reads_text _, reads_text _, nofun⟩
  taken _ := rfl

end TlsPaths

/-! ## Settings -/

namespace Settings

/-- What is written of settings, as parts of a record. -/
def parts (s : Settings) : List Part :=
  [⟨"database_url", .text, .text s.databaseUrl⟩,
    ⟨"database_max_connections", .integer 0 4294967295, .int s.databaseConnections.toNat⟩,
    ⟨"run_migrations", .boolean, .boolean s.runMigrations⟩,
    ⟨"google_client_id", .text, .text s.googleClient⟩,
    ⟨"cors_allowed_origins", .text, .text s.allowedOrigins⟩,
    ⟨"tls", Coded.shape TlsPaths, Coded.toValue s.tls⟩,
    ⟨"port", .integer 0 65535, .int s.port.toNat⟩,
    ⟨"log_format", Coded.shape LogFormat, Coded.toValue s.logFormat⟩]

/-- The secret as a part that is asked for and not written. -/
def secretPart (s : Settings) : Part := ⟨"jwt_secret", .text, .text s.sessionSecret⟩

/-- What settings are read from, as parts of a record. -/
def askedParts (s : Settings) : List Part :=
  s.parts.take 3 ++ s.secretPart :: s.parts.drop 3

variable (s : Settings)

/-- The names of what is written are distinct. -/
theorem nodup_parts : (s.parts.map Part.name).Nodup := by
  show ["database_url", "database_max_connections", "run_migrations", "google_client_id",
    "cors_allowed_origins", "tls", "port", "log_format"].Nodup
  decide

/-- The names of what is asked for are distinct. -/
theorem nodup_askedParts : (s.askedParts.map Part.name).Nodup := by
  show ["database_url", "database_max_connections", "run_migrations", "jwt_secret", "google_client_id",
    "cors_allowed_origins", "tls", "port", "log_format"].Nodup
  decide

/-- Nothing is written under the name of the secret. -/
theorem secret_not_written : s.secretPart.name ∉ s.parts.map Part.name := by
  show "jwt_secret" ∉ ["database_url", "database_max_connections", "run_migrations", "google_client_id",
    "cors_allowed_origins", "tls", "port", "log_format"]
  decide

/-- What is asked for is written, except for the secret. -/
theorem mem_askedParts {p : Part} : p ∈ s.askedParts ↔ p ∈ s.parts ∨ p = s.secretPart := by
  have hparts : p ∈ s.parts ↔ p ∈ s.parts.take 3 ∨ p ∈ s.parts.drop 3 := by
    rw [← List.mem_append, List.take_append_drop]
  rw [askedParts, List.mem_append, List.mem_cons, hparts]
  tauto

/-- What is written of settings can be read, field by field. -/
theorem readsText_of_mem {p : Part} (hp : p ∈ s.parts) :
    ReadsText p.shape.read 127 p.value.render p.value := by
  -- The paths are an object within the object, so that one level of depth less is left for them.
  have htls : ReadsText (Coded.shape TlsPaths).read 127 (Coded.toValue s.tls).render
      (Coded.toValue s.tls) :=
    readsText_parts (TlsPaths.laid.distinct s.tls) (by decide : 1 ≤ 126)
      fun p hp => TlsPaths.laid.reads s.tls p hp 126
  have hconnections := s.databaseConnections.toNat_lt
  have hport := s.port.toNat_lt
  simp only [parts, List.mem_cons, List.not_mem_nil, or_false] at hp
  rcases hp with rfl | rfl | rfl | rfl | rfl | rfl | rfl | rfl
  · exact reads_text _ 127
  · exact reads_integer (by decide) (by decide) (by omega) 127
  · exact reads_boolean _ 127
  · exact reads_text _ 127
  · exact reads_text _ 127
  · exact htls
  · exact reads_integer (by decide) (by decide) (by omega) 127
  · exact reads_word s.logFormat.contains_name 127

/-- What is written of settings can be read for what is asked for, as far as it goes. -/
theorem readable_parts : Readable (s.askedParts.map fun p => (p.name, p.shape)) 127
    (valueIn (s.askedParts.map Part.member)) (rendered (s.parts.map Part.member)) := by
  have hnames : (rendered (s.parts.map Part.member)).map (·.1) = s.parts.map Part.name := by
    rw [map_fst_rendered, map_fst_member]
  refine Json.readable_parts s.nodup_askedParts (fun m hm hother => ?_) fun p hp => ?_
  · have hm' : m.1 ∈ s.parts.map Part.name := hnames ▸ List.mem_map_of_mem hm
    obtain ⟨p, hp, hname⟩ := List.mem_map.mp hm'
    exact absurd (List.mem_map.mpr ⟨p, s.mem_askedParts.mpr (.inl hp), hname⟩) hother
  · rcases (s.mem_askedParts).mp hp with hp | rfl
    · exact comes_rendered s.nodup_parts hp (s.readsText_of_mem hp)
    · refine ⟨?_, fun m hm hname => ?_⟩
      · rw [length_filter_name, hnames, List.count_eq_zero_of_not_mem s.secret_not_written]
        exact Nat.zero_le 1
      · have hwritten : s.secretPart.name ∈ s.parts.map Part.name := by
          rw [← hnames, ← hname]
          exact List.mem_map_of_mem hm
        exact absurd hwritten s.secret_not_written

/-- **What is written of settings is not read as settings**: the secret is missing. -/
theorem parse_print : parse Settings (Source.ofString (print s)) = .error .shape := by
  have hsecret : s.secretPart.name ∉ (rendered (s.parts.map Part.member)).map (·.1) := by
    rw [map_fst_rendered, map_fst_member]
    exact s.secret_not_written
  have hasked : s.secretPart ∈ s.askedParts := s.mem_askedParts.mpr (.inr rfl)
  have hread := s.readable_parts.lacking (writesObject_render _)
    (List.mem_map_of_mem (f := fun p : Part => (p.name, p.shape)) hasked) hsecret rfl (by decide) []
  rw [List.append_nil] at hread
  have hstop : (Coded.shape Settings).read depthLimit (Source.ofString (print s)) =
      .error ⟨.shape, []⟩ := by
    -- The compact text is an object of the written parts, and those do not include the secret.
    rw [ofString_print]
    exact hread
  simp only [parse, Shape.parse, readWhole, hstop]

end Settings

/-! ## All of them -/

/-- **What is written of an entity is read back**, whatever its texts and numbers are and whatever may be
missing of it; and what is written of settings neither depends on the secret nor is read as settings. -/
theorem entities_round_trip :
    RoundTrips AppUser ∧ RoundTrips Organization ∧ RoundTrips Membership ∧ RoundTrips Role ∧
      RoundTrips Provisioning.State ∧ RoundTrips LogFormat ∧ RoundTrips TlsPaths ∧ RoundTrips Identity ∧
      RoundTrips Google.Claims ∧ RoundTrips Session.Claims ∧
      (∀ (s : Settings) (secret : String), print { s with sessionSecret := secret } = print s) ∧
      ∀ s : Settings, parse Settings (Source.ofString (print s)) = .error .shape :=
  ⟨AppUser.laid.roundTrips, Organization.laid.roundTrips, Membership.laid.roundTrips, Role.roundTrips,
    Provisioning.State.roundTrips, LogFormat.roundTrips, TlsPaths.laid.roundTrips, Identity.laid.roundTrips,
    Google.Claims.laid.roundTrips, Session.Claims.laid.roundTrips, fun _ _ => rfl, Settings.parse_print⟩

end TenantOnboarding
