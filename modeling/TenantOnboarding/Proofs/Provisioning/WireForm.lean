import TenantOnboarding.Http.JsonBody
import TenantOnboarding.Proofs.Json.Records
import TenantOnboarding.Proofs.Text.RoundTrip
import TenantOnboarding.Provisioning.Request

/-!
# The wire form of requests

A request for an organization is an object, with an object for the organization and one for its owner.
`Request.Writes` is the relation between a text and the request that it stands for: the members may come
in any order, with blanks wherever they may stand and with any spelling of names and texts, what is
missing may be written as `null` or not at all, and members of other names may have any values. Every name
must spell a string, also that of a member which is passed over.

* `readsText_organization` and `readsText_owner`: the two inner objects are read in whatever way they are
  written.
* **`read_wire_form`**: a request is read from every text that stands for it, also as the body of a request
  over HTTP, and what its examination says depends on the request alone.
* `unpaired_name_refused` shows what names must spell strings for: a member whose name has half a pair in
  it has the form of a member, but a text with it is refused.
-/

namespace TenantOnboarding.Provisioning

open TenantOnboarding.Json

/-! ## What is written -/

/-- A text of what is asked of the organization. -/
inductive OrganizationInput.Writes : List Char → OrganizationInput → Prop where
  | mk {t : List Char} {ms : List (String × List Char)} {o : OrganizationInput}
      (hobject : WritesObject t ms) (hname : WritesField Quotes ms "name" o.name)
      (hdescription : WritesField Quotes ms "description" o.description)
      (hothers : OthersAreValues ["name", "description"] ms) : Writes t o

/-- A text of what is said of the owner. -/
inductive OwnerInput.Writes : List Char → OwnerInput → Prop where
  | mk {t : List Char} {ms : List (String × List Char)} {o : OwnerInput} (hobject : WritesObject t ms)
      (hemail : WritesField Quotes ms "email" o.email) (hothers : OthersAreValues ["email"] ms) :
      Writes t o

/-- A text of a request, with blanks around it. Members of other names may be there on both levels as long
as their names spell strings, which `IsMember` does not ask for. -/
inductive Request.Writes : List Char → Request → Prop where
  | mk {b t b' : List Char} {ms : List (String × List Char)} {r : Request} (hb : AreBlanks b)
      (hobject : WritesObject t ms)
      (horganization : WritesField OrganizationInput.Writes ms "organization" r.organization)
      (howner : WritesField OwnerInput.Writes ms "appUser" r.owner)
      (hothers : OthersAreValues ["organization", "appUser"] ms) (hb' : AreBlanks b') :
      Writes (b ++ t ++ b') r

/-! ## The parts of a request -/

/-- What is asked of an organization as parts of a record. -/
def OrganizationInput.parts (o : OrganizationInput) : List Part :=
  [⟨"name", .optional .text, .maybeText o.name⟩,
    ⟨"description", .optional .text, .maybeText o.description⟩]

/-- What is said of an owner as parts of a record. -/
def OwnerInput.parts (o : OwnerInput) : List Part :=
  [⟨"email", .optional .text, .maybeText o.email⟩]

/-- A request as parts of a record. -/
def Request.parts (r : Request) : List Part :=
  [⟨"organization", .optional (Coded.shape OrganizationInput),
      .optional (r.organization.map Coded.toValue)⟩,
    ⟨"appUser", .optional (Coded.shape OwnerInput), .optional (r.owner.map Coded.toValue)⟩]

/-- The names of what is asked of an organization are distinct. -/
theorem OrganizationInput.nodup_names (o : OrganizationInput) : (o.parts.map Part.name).Nodup := by
  show ["name", "description"].Nodup
  decide

/-- The one name of what is said of an owner is distinct from all others. -/
theorem OwnerInput.nodup_names (o : OwnerInput) : (o.parts.map Part.name).Nodup :=
  List.nodup_singleton "email"

/-- The names of what a request holds are distinct. -/
theorem Request.nodup_names (r : Request) : (r.parts.map Part.name).Nodup := by
  show ["organization", "appUser"].Nodup
  decide

/-- What is asked of an organization is taken back from its value. -/
theorem ofValue?_organization (o : OrganizationInput) :
    Coded.ofValue? (Coded.toValue o) = some o := by
  show (do
    return { name := ← (Value.maybeText o.name).optional? Value.text?
             description := ← (Value.maybeText o.description).optional? Value.text? } :
      Option OrganizationInput) = some o
  rw [optional?_maybeText, optional?_maybeText]
  rfl

/-- What is said of an owner is taken back from its value. -/
theorem ofValue?_owner (o : OwnerInput) : Coded.ofValue? (Coded.toValue o) = some o := by
  show (do
    return { email := ← (Value.maybeText o.email).optional? Value.text? } : Option OwnerInput) = some o
  rw [optional?_maybeText]
  rfl

/-- A request is taken back from its value. -/
theorem ofValue?_request (r : Request) : Coded.ofValue? (Coded.toValue r) = some r := by
  have horganization := optional?_optional ofValue?_organization (fun _ h => by cases h) r.organization
  have howner := optional?_optional ofValue?_owner (fun _ h => by cases h) r.owner
  show (do
    return { organization := ← (Value.optional (r.organization.map Coded.toValue)).optional?
               Coded.ofValue?
             owner := ← (Value.optional (r.owner.map Coded.toValue)).optional? Coded.ofValue? } :
      Option Request) = some r
  rw [horganization, howner]
  rfl

/-! ## What is read -/

section reading

variable {depth : Nat} {t : List Char}

/-- A text that may be missing is read in whatever way it is written. -/
theorem readsText_optional_text {s : String} (h : Quotes t s) :
    ReadsText (Shape.optional .text).read depth t (.text s) := by
  have hread : ReadsText Shape.text.read depth t (.text s) := readsText_text h
  cases h with
  | mk => exact readsText_optional hread (by decide) (by decide)

/-- An object that may be missing is read as it is read where it may not. -/
theorem readsText_optional_object {ms : List (String × List Char)} {shape : Shape} {v : Value}
    (hobject : WritesObject t ms) (h : ReadsText shape.read depth t v) :
    ReadsText (Shape.optional shape).read depth t v := by
  cases hobject with
  | empty => exact readsText_optional h (by decide) (by decide)
  | members => exact readsText_optional h (by decide) (by decide)

/-- Members of other names are passed over. -/
theorem skipsText_of_others {names : List String} {ms : List (String × List Char)}
    (h : OthersAreValues names ms) : ∀ m ∈ ms, m.1 ∉ names → SkipsText m.2 :=
  fun m hm hname _ => skipValue_value (h m hm hname)

variable (hdepth : 1 ≤ depth)
include hdepth

/-- What is asked of an organization is read in whatever way it is written. -/
theorem readsText_organization {o : OrganizationInput} (h : o.Writes t) :
    ReadsText (Shape.optional (Coded.shape OrganizationInput)).read (depth + 1) t (Coded.toValue o) := by
  obtain ⟨hobject, hname, hdescription, hothers⟩ := h
  have htext : ∀ t s, Quotes t s → ReadsText (Shape.optional .text).read depth t (.text s) :=
    fun _ _ => readsText_optional_text
  refine readsText_optional_object hobject (readsText_record o.parts o.nodup_names
    (skipsText_of_others hothers) hobject hdepth fun p hp => ?_)
  simp only [OrganizationInput.parts, List.mem_cons, List.not_mem_nil, or_false] at hp
  rcases hp with rfl | rfl
  · exact given_of_writesField hname htext
  · exact given_of_writesField hdescription htext

/-- What is said of an owner is read in whatever way it is written. -/
theorem readsText_owner {o : OwnerInput} (h : o.Writes t) :
    ReadsText (Shape.optional (Coded.shape OwnerInput)).read (depth + 1) t (Coded.toValue o) := by
  obtain ⟨hobject, hemail, hothers⟩ := h
  have htext : ∀ t s, Quotes t s → ReadsText (Shape.optional .text).read depth t (.text s) :=
    fun _ _ => readsText_optional_text
  refine readsText_optional_object hobject (readsText_record o.parts o.nodup_names
    (skipsText_of_others hothers) hobject hdepth fun p hp => ?_)
  obtain rfl := List.mem_singleton.mp hp
  exact given_of_writesField hemail htext

end reading

/-- A request is read from every text that stands for it. -/
theorem parse_writes {t : List Char} {r : Request} (h : r.Writes t) :
    parse Request (t.map some) = .ok r := by
  obtain ⟨hb, hobject, horganization, howner, hothers, hb'⟩ := h
  rename_i b t b' ms
  have hread : ReadsText (Coded.shape Request).read depthLimit t (Coded.toValue r) := by
    refine readsText_record r.parts r.nodup_names (skipsText_of_others hothers) hobject
      (by decide : 1 ≤ 127) fun p hp => ?_
    simp only [Request.parts, List.mem_cons, List.not_mem_nil, or_false] at hp
    rcases hp with rfl | rfl
    · exact given_of_writesField horganization fun _ _ => readsText_organization (by decide : 1 ≤ 126)
    · exact given_of_writesField howner fun _ _ => readsText_owner (by decide : 1 ≤ 126)
  rw [parse, parse_readsText hread hb hb']
  simp only [ofValue?_request]

/-! ## What a request is written as -/

/-- What is asked of an organization is written in its wire form. -/
theorem OrganizationInput.writes_render (o : OrganizationInput) : o.Writes (Coded.toValue o).render := by
  refine .mk (writesObject_render _) ?_ ?_ ?_
  · obtain ⟨_ | name, description⟩ := o
    · exact .null rfl
    · exact .value rfl (quotes_writeQuoted name)
  · obtain ⟨name, _ | description⟩ := o
    · exact .null rfl
    · exact .value rfl (quotes_writeQuoted description)
  · intro m hm hother
    exact absurd (List.mem_map_of_mem (f := fun m => m.1) hm) hother

/-- What is said of an owner is written in its wire form. -/
theorem OwnerInput.writes_render (o : OwnerInput) : o.Writes (Coded.toValue o).render := by
  refine .mk (writesObject_render _) ?_ ?_
  · obtain ⟨_ | email⟩ := o
    · exact .null rfl
    · exact .value rfl (quotes_writeQuoted email)
  · intro m hm hother
    exact absurd (List.mem_map_of_mem (f := fun m => m.1) hm) hother

/-- **Every request has a text**: its compact one. -/
theorem Request.writes_print (r : Request) : r.Writes (print r).toList := by
  have hrender : (print r).toList = [] ++ (Coded.toValue r).render ++ [] := by
    rw [List.nil_append, List.append_nil]
    exact String.toList_ofList
  rw [hrender]
  refine .mk areBlanks_nil (writesObject_render _) ?_ ?_ ?_ areBlanks_nil
  · obtain ⟨_ | organization, owner⟩ := r
    · exact .null rfl
    · exact .value rfl organization.writes_render
  · obtain ⟨organization, _ | owner⟩ := r
    · exact .null rfl
    · exact .value rfl owner.writes_render
  · intro m hm hother
    exact absurd (List.mem_map_of_mem (f := fun m => m.1) hm) hother

/-! ## The wire form -/

/-- **A request is read from every text that stands for it.** So is the body of a request over HTTP that
holds the text, says that it is JSON and is not too long; and whatever the verified email of the visitor
is and whatever faults are called, the validation of what was read depends on the request alone and not on
its text. -/
theorem read_wire_form {r : Request} {text : String} (h : r.Writes text.toList) :
    parse Request (Source.ofString text) = .ok r ∧
      (∀ q : Http.Request, q.saysJson = true → q.body = Text.Utf8.ofString text →
        q.body.length ≤ 2097152 → q.jsonBody? Request = some r) ∧
      ∀ print verified, (parse Request (Source.ofString text)).map (·.validateFor print verified) =
        .ok (r.validateFor print verified) := by
  have hparse : parse Request (Source.ofString text) = .ok r := parse_writes h
  refine ⟨hparse, fun q hjson hbody hlength => ?_, fun print verified => ?_⟩
  · have hsource : Text.Utf8.decode q.body = Source.ofString text := by
      rw [hbody, Text.Utf8.ofString, Text.Utf8.decode_encode]
      rfl
    rw [Http.Request.jsonBody?, if_pos ⟨hjson, hlength⟩, hsource, hparse]
    rfl
  · rw [hparse]
    rfl

/-! ### An example -/

/-- A request without a description. -/
def wiredRequest : Request :=
  ⟨some ⟨some "A 😀", none⟩, some ⟨some "a@b.io"⟩⟩

/-- A text of its organization: the name of the name and a character of its value are escaped, and the
description is `null`. -/
def wiredOrganization : List Char :=
  "\x7b\x22description\x22:null,\n\x22n\\u0061me\x22:\x22A \\ud83d\\uDE00\x22\x7d".toList

/-- A text of its owner. -/
def wiredOwner : List Char :=
  "\x7b\x22email\x22:\x22a\\u0040b.io\x22\x7d".toList

/-- A value with half a pair in the name of a member. -/
def wiredOther : List Char :=
  "[-1.5e+3 , \x7b\x22\\ud800\x22:true\x7d]".toList

/-- A text of the request: the owner comes first, behind a member that is no field. -/
def wiredText : String :=
  String.ofList ("\n\x7b\x22x\x22:".toList ++ wiredOther ++ ",\x22appUser\x22:".toList ++
    wiredOwner ++ ", \x22organization\x22 : ".toList ++ wiredOrganization ++ " \x7d ".toList)

/-- A text without escapes. -/
theorem quotes_literal (s : String) (h : AreLiteral s.toList) :
    Quotes ('\x22' :: (s.toList ++ ['\x22'])) s := .mk (spellsAll_literal h)

/-- A member without blanks whose name is written without escapes. -/
theorem writesMember_literal (name : String) (h : AreLiteral name.toList) (t : List Char) :
    WritesMember ('\x22' :: (name.toList ++ '\x22' :: ':' :: t)) (name, t) := by
  have hmember := WritesMember.mk (t := t) areBlanks_nil (quotes_literal name h) areBlanks_nil
    areBlanks_nil areBlanks_nil
  simpa using hmember

/-- The text of the organization stands for it. -/
theorem writes_wiredOrganization :
    (⟨some "A 😀", none⟩ : OrganizationInput).Writes wiredOrganization := by
  have hpair : Spells "\\ud83d\\uDE00".toList '😀' := by
    have hhigh : HexFour ['d', '8', '3', 'd'] (((13 * 16 + 8) * 16 + 3) * 16 + 13) :=
      .mk (by decide) (by decide) (by decide) (by decide)
    have hlow : HexFour ['D', 'E', '0', '0'] (((13 * 16 + 14) * 16 + 0) * 16 + 0) :=
      .mk (by decide) (by decide) (by decide) (by decide)
    exact .pair hhigh hlow (by decide) (by decide) (by decide)
  have hname : Quotes "\x22n\\u0061me\x22".toList "name" := by
    have ha : HexFour ['0', '0', '6', '1'] (((0 * 16 + 0) * 16 + 6) * 16 + 1) :=
      .mk (by decide) (by decide) (by decide) (by decide)
    have hrest : SpellsAll ['m', 'e'] ['m', 'e'] := spellsAll_literal (by decide)
    exact .mk (s := "name")
      (.cons (.literal (c := 'n') (by decide)) (.cons (.number (c := 'a') ha) hrest))
  have hvalue : Quotes "\x22A \\ud83d\\uDE00\x22".toList "A 😀" := by
    have hfront : SpellsAll ['A', ' '] ['A', ' '] := spellsAll_literal (by decide)
    exact .mk (s := "A 😀") (hfront.append (.cons hpair .nil))
  have hmember := WritesMember.mk (t := "\x22A \\ud83d\\uDE00\x22".toList)
    (by decide : AreBlanks ['\n']) hname areBlanks_nil areBlanks_nil areBlanks_nil
  exact .mk (.members (.more (writesMember_literal "description" (by decide) "null".toList)
    (.single hmember))) (.value rfl hvalue) (.null rfl) (by simp [OthersAreValues])

/-- The text of the owner stands for it. -/
theorem writes_wiredOwner : (⟨some "a@b.io"⟩ : OwnerInput).Writes wiredOwner := by
  have hvalue : Quotes "\x22a\\u0040b.io\x22".toList "a@b.io" := by
    have hat : HexFour ['0', '0', '4', '0'] (((0 * 16 + 0) * 16 + 4) * 16 + 0) :=
      .mk (by decide) (by decide) (by decide) (by decide)
    have hbehind : SpellsAll "b.io".toList "b.io".toList := spellsAll_literal (by decide)
    exact .mk (s := "a@b.io")
      (.cons (.literal (c := 'a') (by decide)) (.cons (.number (c := '@') hat) hbehind))
  have hmember := writesMember_literal "email" (by decide) "\x22a\\u0040b.io\x22".toList
  exact .mk (.members (.single hmember)) (.value rfl hvalue) (by simp [OthersAreValues])

/-- The value of the member that is no field has the form of a value. -/
theorem isValue_wiredOther : IsValue wiredOther := by
  have hnumber : IsNumber "-1.5e+3".toList :=
    .mk (.inr rfl) (show IsWhole ['1'] from .digits (by decide) (by decide))
      (show IsFraction ['.', '5'] from .digits (by decide))
      (.digits (e := 'e') (.inl rfl) (.inr (.inl rfl)) (by decide : AreDigits ['3']))
  have hhalf : HexFour ['d', '8', '0', '0'] (((13 * 16 + 8) * 16 + 0) * 16 + 0) :=
    .mk (by decide) (by decide) (by decide) (by decide)
  have htrue : IsElement ([] ++ "true".toList ++ []) := .mk areBlanks_nil (.word (by simp)) areBlanks_nil
  have hmember := IsMember.mk areBlanks_nil (.mk (.number hhalf .nil)) areBlanks_nil htrue
  have hobject := IsElement.mk (by decide : AreBlanks [' ']) (.object (.single hmember)) areBlanks_nil
  have hfirst := IsElement.mk areBlanks_nil (.number hnumber) (by decide : AreBlanks [' '])
  exact .list (.more hfirst (.single hobject))

/-- The text stands for the request. -/
theorem writes_wiredText : wiredRequest.Writes wiredText.toList := by
  have horganization := WritesMember.mk (t := wiredOrganization) (by decide : AreBlanks [' '])
    (quotes_literal "organization" (by decide)) (by decide : AreBlanks [' '])
    (by decide : AreBlanks [' ']) (by decide : AreBlanks [' '])
  have hobject : WritesObject _ [("x", wiredOther), ("appUser", wiredOwner),
      ("organization", wiredOrganization)] :=
    .members (.more (writesMember_literal "x" (by decide) wiredOther)
      (.more (writesMember_literal "appUser" (by decide) wiredOwner) (.single horganization)))
  have hwrites := Request.Writes.mk (r := wiredRequest) (by decide : AreBlanks ['\n']) hobject
    (.value rfl writes_wiredOrganization) (.value rfl writes_wiredOwner)
    (by simp [OthersAreValues, isValue_wiredOther]) (by decide : AreBlanks [' '])
  -- The relation puts the same characters together, bracketed in another way.
  refine Eq.subst (motive := fun t => wiredRequest.Writes t) ?_ hwrites
  decide +kernel

/-- A request over HTTP that holds the text. -/
def wiredMessage : Http.Request :=
  ⟨"POST", ⟨[]⟩, [⟨"content-type", Text.Utf8.ofString "application/json"⟩],
    Text.Utf8.ofString wiredText⟩

theorem read_wire_form_sample :
    wiredRequest.Writes wiredText.toList ∧
      parse Request (Source.ofString wiredText) = .ok wiredRequest ∧
      wiredMessage.jsonBody? Request = some wiredRequest ∧
      ∀ print verified,
        (parse Request (Source.ofString wiredText)).map (·.validateFor print verified) =
          .ok (wiredRequest.validateFor print verified) := by
  obtain ⟨hparse, hbody, hvalidate⟩ := read_wire_form writes_wiredText
  have hjson : wiredMessage.saysJson = true := by decide +kernel
  have hlength : wiredMessage.body.length ≤ 2097152 := by decide +kernel
  exact ⟨writes_wiredText, hparse, hbody wiredMessage hjson (by simp only [wiredMessage]) hlength,
    hvalidate⟩

/-! ### Names that spell no string -/

/-- A name that is half a pair. -/
def unpairedName : List Char := "\x22\\ud800\x22".toList

/-- A request without an organization. -/
def ownedRequest : Request := ⟨none, some ⟨some "a@b.io"⟩⟩

/-- The members of a text of it, and the bracket behind them. -/
def ownedMembers : List Char := "\x22appUser\x22:".toList ++ wiredOwner ++ ['\x7d']

/-- The text with one member more, whose name is half a pair. -/
def unpairedText : String :=
  String.ofList ('\x7b' :: (unpairedName ++ ":1,".toList ++ ownedMembers))

/-- A request over HTTP that holds this text. -/
def unpairedMessage : Http.Request :=
  { wiredMessage with body := Text.Utf8.ofString unpairedText }

/-- Half a pair spells no string. -/
theorem not_quotes_unpairedName (s : String) : ¬Quotes unpairedName s := by
  intro h
  have hread : ReadsText Shape.text.read 0 unpairedName (.text s) := readsText_text h
  have hrefused : (Shape.text.read 0 (unpairedName.map some ++ [])).isOk = false := by decide +kernel
  rw [hread [] fun c hc => by cases hc] at hrefused
  cases hrefused

/-- **A member whose name spells no string makes a text unreadable**, though it has the form of a member
and its name is that of no field. Without the member the text is that of a request. -/
theorem unpaired_name_refused :
    ownedRequest.Writes ('\x7b' :: ownedMembers) ∧ IsMember (unpairedName ++ ":1".toList) ∧
      (∀ name, ¬Quotes unpairedName name) ∧
      unpairedText.toList = '\x7b' :: (unpairedName ++ ":1".toList ++ ',' :: ownedMembers) ∧
      (parse Request (Source.ofString unpairedText)).toOption = none ∧
      unpairedMessage.saysJson = true ∧ unpairedMessage.body.length ≤ 2097152 ∧
      unpairedMessage.jsonBody? Request = none := by
  refine ⟨?_, ?_, not_quotes_unpairedName, by decide +kernel, by decide +kernel, by decide +kernel,
    by decide +kernel, by decide +kernel⟩
  · have hobject : WritesObject _ [("appUser", wiredOwner)] :=
      .members (.single (writesMember_literal "appUser" (by decide) wiredOwner))
    have hwrites := Request.Writes.mk (r := ownedRequest) areBlanks_nil hobject (.missing rfl)
      (.value rfl writes_wiredOwner) (by simp [OthersAreValues]) areBlanks_nil
    refine Eq.subst (motive := fun t => ownedRequest.Writes t) ?_ hwrites
    decide +kernel
  · have hhalf : HexFour ['d', '8', '0', '0'] (((13 * 16 + 8) * 16 + 0) * 16 + 0) :=
      .mk (by decide) (by decide) (by decide) (by decide)
    have hone : IsNumber ['1'] :=
      .mk (.inl rfl) (show IsWhole ['1'] from .digits (by decide) (by decide)) .none .none
    have helement : IsElement ([] ++ ['1'] ++ []) := .mk areBlanks_nil (.number hone) areBlanks_nil
    exact .mk areBlanks_nil (.mk (.number hhalf .nil)) areBlanks_nil helement

end TenantOnboarding.Provisioning
