import TenantOnboarding.Http.Cors
import TenantOnboarding.Proofs.Text.Trimming

/-!
# Lists of origins

A list of origins is cut at its commas. Each item gives one origin or none, and what it gives depends on
no other item.

* `IsOrigin` says what can be listed, and `originOfItem?_eq_some_iff` what an item gives: itself without
  the blanks around it, if that can be listed.
* `parseOrigins_comma`: two lists with a comma between them give what each gives.
* `parseOrigins_join`: origins with commas between them are read back.
* **`lists_origins`** puts these together.
-/

namespace TenantOnboarding.Http

/-! ## Items -/

/-- What can be listed: a text that is not empty, has no comma, neither starts nor ends with a blank, and
has no control character but the tab. -/
structure IsOrigin (s : String) : Prop where
  nonempty : s ≠ ""
  no_comma : ',' ∉ s.toList
  first : ∀ c, s.toList.head? = some c → Text.isBlank c = false
  last : ∀ c, s.toList.getLast? = some c → Text.isBlank c = false
  no_control : ∀ b ∈ Text.Utf8.ofString s, (b.toNat < 0x20 → b = 0x09) ∧ b ≠ 0x7F

/-- The origin that an item gives. -/
def originOfItem? (item : List Char) : Option String :=
  let origin := Text.trim (String.ofList item)
  if origin ≠ "" ∧ canBeValue origin then some origin else none

/-- A text can stand in a header if it has no control character but the tab. -/
theorem canBeValue_iff {s : String} : canBeValue s = true ↔
    ∀ b ∈ Text.Utf8.ofString s, (b.toNat < 0x20 → b = 0x09) ∧ b ≠ 0x7F := by
  rw [canBeValue, List.all_eq_true]
  refine forall₂_congr fun b _ => ?_
  have hleast : 0x20 ≤ b ↔ 0x20 ≤ b.toNat := UInt8.le_iff_toNat_le
  have htab : b = 0x09 → b ≠ 0x7F := by
    rintro rfl
    decide
  simp only [isValueByte, Bool.or_eq_true, Bool.and_eq_true, decide_eq_true_eq, bne_iff_ne, ne_eq,
    beq_iff_eq, hleast]
  constructor
  · rintro (⟨hb, hdelete⟩ | hb)
    · exact ⟨fun hlt => absurd hb (by omega), hdelete⟩
    · exact ⟨fun _ => hb, htab hb⟩
  · rintro ⟨hcontrol, hdelete⟩
    by_cases hb : b.toNat < 0x20
    · exact .inr (hcontrol hb)
    · exact .inl ⟨by omega, hdelete⟩

/-- An origin is left as it is when it is trimmed. -/
theorem IsOrigin.trim_eq {s : String} (h : IsOrigin s) : Text.trim s = s :=
  have htrims : Text.Trims s s := ⟨⟨[], [], (List.append_nil _).symm, nofun, nofun⟩, h.first, h.last⟩
  htrims.eq_trim.symm

/-- **An item gives itself without the blanks around it**, if that can be listed. -/
theorem originOfItem?_eq_some_iff {item : List Char} (hitem : ',' ∉ item) {origin : String} :
    originOfItem? item = some origin ↔
      origin = Text.trim (String.ofList item) ∧ IsOrigin origin := by
  have htrims := Text.trims_trim (String.ofList item)
  have hcomma : ',' ∉ (Text.trim (String.ofList item)).toList := by
    rwa [htrims.mem_iff (by decide), String.toList_ofList]
  simp only [originOfItem?, Option.ite_none_right_eq_some, Option.some.injEq]
  constructor
  · rintro ⟨⟨hnonempty, hvalue⟩, rfl⟩
    exact ⟨rfl, hnonempty, hcomma, htrims.first, htrims.last, canBeValue_iff.mp hvalue⟩
  · rintro ⟨rfl, horigin⟩
    exact ⟨⟨horigin.nonempty, canBeValue_iff.mpr horigin.no_control⟩, rfl⟩

/-- An item that leaves nothing that can be listed gives nothing. -/
theorem originOfItem?_eq_none {item : List Char} (hitem : ',' ∉ item)
    (h : ¬IsOrigin (Text.trim (String.ofList item))) : originOfItem? item = none := by
  rw [Option.eq_none_iff_forall_ne_some]
  intro origin horigin
  obtain ⟨rfl, hlisted⟩ := (originOfItem?_eq_some_iff hitem).mp horigin
  exact h hlisted

/-- An origin is an item that gives itself. -/
theorem IsOrigin.originOfItem? {s : String} (h : IsOrigin s) : originOfItem? s.toList = some s := by
  rw [originOfItem?_eq_some_iff h.no_comma, String.ofList_toList, h.trim_eq]
  exact ⟨rfl, h⟩

/-! ## Lists -/

/-- A list gives what its items give, in their order. -/
theorem parseOrigins_eq (text : String) :
    parseOrigins text = (splitAtCommas text.toList).filterMap originOfItem? := by
  unfold parseOrigins
  generalize splitAtCommas text.toList = items
  induction items with
  | nil => rfl
  | cons item items ih =>
    have htrim : String.ofList (Text.trimEnd (Text.trimStart item)) =
        Text.trim (String.ofList item) := by
      rw [Text.trim, String.toList_ofList]
    rw [List.map_cons, List.filterMap_cons, originOfItem?, htrim, ← ih]
    by_cases hempty : Text.trim (String.ofList item) = ""
    · simp [hempty]
    · by_cases hvalue : canBeValue (Text.trim (String.ofList item)) = true
      · simp [hempty, hvalue]
      · simp [hempty, hvalue]

/-- No item has a comma. -/
theorem comma_not_mem_of_mem_splitAtCommas {cs item : List Char} (h : item ∈ splitAtCommas cs) :
    ',' ∉ item := by
  unfold splitAtCommas at h
  induction cs generalizing item with
  | nil =>
    rw [List.splitOn_nil, List.mem_singleton] at h
    rw [h]
    exact List.not_mem_nil
  | cons c cs ih =>
    rw [List.splitOn_cons_eq_if_modifyHead] at h
    obtain ⟨first, items, hitems⟩ := List.exists_cons_of_ne_nil (List.splitOn_ne_nil ',' cs)
    rw [hitems] at h ih
    split at h
    · rcases List.mem_cons.mp h with rfl | h
      · exact List.not_mem_nil
      · exact ih h
    · rename_i hc
      rcases List.mem_cons.mp h with rfl | h
      · have hfirst := ih (List.mem_cons_self (a := first))
        have hne : ',' ≠ c := fun heq => hc (by rw [heq, BEq.rfl])
        exact List.not_mem_cons_of_ne_of_not_mem hne hfirst
      · exact ih (List.mem_cons_of_mem _ h)

/-- **Two lists with a comma between them give what each gives.** -/
theorem parseOrigins_comma (a b : String) :
    parseOrigins (a ++ "," ++ b) = parseOrigins a ++ parseOrigins b := by
  have htext : (a ++ "," ++ b).toList = a.toList ++ ',' :: b.toList := by
    rw [String.toList_append, String.toList_append, List.append_assoc]
    rfl
  rw [parseOrigins_eq, parseOrigins_eq, parseOrigins_eq, htext, splitAtCommas,
    List.splitOn_append_cons_self, List.filterMap_append]
  rfl

/-- A list of one item gives what the item gives. -/
theorem parseOrigins_item {item : String} (hitem : ',' ∉ item.toList) :
    parseOrigins item = (originOfItem? item.toList).toList := by
  rw [parseOrigins_eq, splitAtCommas, List.splitOn_eq_singleton hitem, List.filterMap_cons,
    List.filterMap_nil]
  rcases originOfItem? item.toList with _ | origin <;> rfl

/-- **Everything that a list gives can be listed.** -/
theorem isOrigin_of_mem {text origin : String} (h : origin ∈ parseOrigins text) : IsOrigin origin := by
  rw [parseOrigins_eq, List.mem_filterMap] at h
  obtain ⟨item, hitem, horigin⟩ := h
  exact ((originOfItem?_eq_some_iff (comma_not_mem_of_mem_splitAtCommas hitem)).mp horigin).2

/-- **Origins with commas between them are read back.** -/
theorem parseOrigins_join {origins : List String} (h : ∀ origin ∈ origins, IsOrigin origin) :
    parseOrigins (",".intercalate origins) = origins := by
  induction origins with
  | nil => decide
  | cons origin origins ih =>
    have hfirst : parseOrigins origin = [origin] := by
      have horigin := h origin List.mem_cons_self
      rw [parseOrigins_item horigin.no_comma, horigin.originOfItem?, Option.toList_some]
    rcases origins with _ | ⟨next, origins⟩
    · exact hfirst
    · have hcons : ",".intercalate (origin :: next :: origins) =
          origin ++ "," ++ ",".intercalate (next :: origins) :=
        String.intercalate_cons_cons
      rw [hcons, parseOrigins_comma, hfirst,
        ih fun origin' horigin' => h origin' (List.mem_cons_of_mem _ horigin')]
      rfl

/-- **What a list of origins gives**: lists are read side by side, everything they give can be listed, and
whatever can be listed is read back, in its order and as often as it comes. So a list that was read stays
as it is, and an item that gives nothing leaves the items around it alone. -/
theorem lists_origins :
    (∀ a b, parseOrigins (a ++ "," ++ b) = parseOrigins a ++ parseOrigins b) ∧
    (∀ a, ∀ origin ∈ parseOrigins a, IsOrigin origin) ∧
    (∀ origins : List String, (∀ origin ∈ origins, IsOrigin origin) →
      parseOrigins (",".intercalate origins) = origins) ∧
    (∀ a, parseOrigins (",".intercalate (parseOrigins a)) = parseOrigins a) ∧
    ∀ a item b : String, ',' ∉ item.toList → ¬IsOrigin (Text.trim item) →
      parseOrigins (a ++ "," ++ item ++ "," ++ b) = parseOrigins a ++ parseOrigins b := by
  refine ⟨parseOrigins_comma, fun a origin => isOrigin_of_mem, fun origins => parseOrigins_join,
    fun a => parseOrigins_join fun origin => isOrigin_of_mem, ?_⟩
  intro a item b hcomma hbad
  have hnone : originOfItem? item.toList = none :=
    originOfItem?_eq_none hcomma (by rwa [String.ofList_toList])
  rw [parseOrigins_comma, parseOrigins_comma, parseOrigins_item hcomma, hnone, Option.toList_none,
    List.append_nil]

end TenantOnboarding.Http
