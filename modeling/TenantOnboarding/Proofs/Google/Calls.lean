import TenantOnboarding.Identity.Google.Verifier
import TenantOnboarding.Proofs.Token.Headers

/-!
# What a call does

A call of a verifier looks for the key that the token names, which may ask the server of keys, and then at
the token.

* `KeyServer.Gives` and `KeyServer.Fails` are the two outcomes of asking the server.
* **`Verifier.verify_answers`**: there are five ways in which a call can go (`Verifier.Answers`). All that
  is known of the answers and of the cache comes from them.
-/

namespace TenantOnboarding.Google

open Json Token

/-! ## Keys -/

/-- A key that is found is one of the set and has the name. -/
theorem KeySet.mem_of_find? {s : KeySet} {id : String} {k : Key} (h : s.find? id = some k) :
    k ∈ s.keys ∧ k.id = id := by
  rw [find?] at h
  have hmem := List.mem_of_find?_eq_some h
  have hname := List.find?_some h
  exact ⟨List.mem_reverse.mp hmem, by simpa using hname⟩

/-- The key that is found is the last one of the name. -/
theorem KeySet.find?_eq_getLast? (s : KeySet) (id : String) :
    s.find? id = (s.keys.filter (·.id == id)).getLast? := by
  rw [find?, ← List.head?_filter, List.filter_reverse, List.head?_reverse]

/-- A key that is found in a cache is found among its keys. -/
theorem KeyCache.find?_keys {c : KeyCache} {now : Int} {id : String} {k : Key}
    (h : c.find? now id = some k) : c.keys.find? id = some k := by
  unfold find? at h
  split at h
  · split at h
    · exact h
    · cases h
  · cases h

/-! ## The server -/

/-- The server answers with keys. -/
def KeyServer.Gives (s : KeyServer) (keys : KeySet) : Prop :=
  ∃ a, s.fetch.1 = some a ∧ ¬(400 ≤ a.status ∧ a.status < 600) ∧
    parse KeySet (Text.Utf8.decode a.body) = .ok keys

/-- The server gives no keys. -/
inductive KeyServer.Fails (s : KeyServer) : Prop where
  /-- There is no connection, or it is closed without an answer. -/
  | unanswered (closed : s.fetch.1 = none)
  /-- The status is one of a failure. -/
  | refused {a : KeyAnswer} (answer : s.fetch.1 = some a) (status : 400 ≤ a.status ∧ a.status < 600)
  /-- The body is no set of keys. -/
  | unreadable {a : KeyAnswer} {fault : Json.Fault} (answer : s.fetch.1 = some a)
      (body : parse KeySet (Text.Utf8.decode a.body) = .error fault)

/-- Keys are given if an answer publishes them. -/
theorem KeyServer.gives_iff {s : KeyServer} {keys : KeySet} :
    s.Gives keys ↔ s.fetch.1.bind KeyAnswer.keys? = some keys := by
  constructor
  · rintro ⟨a, ha, hstatus, hbody⟩
    rw [ha, Option.bind_some, KeyAnswer.keys?, if_neg hstatus, hbody]
    rfl
  · intro h
    obtain ⟨a, ha, hkeys⟩ := Option.bind_eq_some_iff.mp h
    rw [KeyAnswer.keys?] at hkeys
    by_cases hstatus : 400 ≤ a.status ∧ a.status < 600
    · rw [if_pos hstatus] at hkeys
      cases hkeys
    · rw [if_neg hstatus] at hkeys
      exact ⟨a, ha, hstatus, eq_ok_of_toOption hkeys⟩

/-- The server fails if no answer publishes keys. -/
theorem KeyServer.fails_iff {s : KeyServer} :
    s.Fails ↔ s.fetch.1.bind KeyAnswer.keys? = none := by
  constructor
  · intro h
    cases h with
    | unanswered hclosed => rw [hclosed, Option.bind_none]
    | refused ha hstatus => rw [ha, Option.bind_some, KeyAnswer.keys?, if_pos hstatus]
    | unreadable ha hbody =>
      rw [ha, Option.bind_some, KeyAnswer.keys?, hbody]
      exact ite_self none
  · intro h
    cases hanswer : s.fetch.1 with
    | none => exact .unanswered hanswer
    | some a =>
      rw [hanswer, Option.bind_some, KeyAnswer.keys?] at h
      by_cases hstatus : 400 ≤ a.status ∧ a.status < 600
      · exact .refused hanswer hstatus
      · rw [if_neg hstatus] at h
        cases hbody : parse KeySet (Text.Utf8.decode a.body) with
        | error fault => exact .unreadable hanswer hbody
        | ok keys =>
          rw [hbody] at h
          cases h

/-- The server fails or gives keys. -/
theorem KeyServer.fails_or_gives (s : KeyServer) : s.Fails ∨ ∃ keys, s.Gives keys := by
  cases hkeys : s.fetch.1.bind KeyAnswer.keys? with
  | none => exact .inl (fails_iff.mpr hkeys)
  | some keys => exact .inr ⟨keys, gives_iff.mpr hkeys⟩

/-! ## Calls -/

/-- The key that a token names stands in its header, beside the algorithm. -/
theorem namedKey?_eq_some_iff {token id : String} :
    namedKey? token = some id ↔ Header.ofToken? token = some ⟨.rs256, some id⟩ := by
  unfold namedKey?
  cases hheader : Header.ofToken? token with
  | none => simp
  | some header =>
    obtain ⟨algorithm, keyId⟩ := header
    by_cases halgorithm : algorithm = .rs256
    · simp [halgorithm]
    · simp [halgorithm]

namespace Verifier

/-- A verifier that has just fetched keys. -/
def refreshed (v : Verifier) (keys : KeySet) (now : Int) : Verifier :=
  ⟨v.audience, ⟨keys, some now⟩, v.server.fetch.2⟩

section ways

variable {v : Verifier} {token id : String} {now : Int} {keys : KeySet} {key : Key}

/-- A token that names no key is refused. -/
theorem verify_unnamed (hnamed : namedKey? token = none) :
    v.verify token now = (.error .invalidToken, v) := by
  simp only [verify, hnamed]

/-- A token is looked at with a key that is known. -/
theorem verify_known (hnamed : namedKey? token = some id) (hhit : v.cache.find? now id = some key) :
    v.verify token now = (v.identityBy key now token, v) := by
  simp only [verify, hnamed, keyOf, hhit]

/-- If the server is asked and gives no keys, the token is not looked at. -/
theorem verify_failed (hnamed : namedKey? token = some id) (hmiss : v.cache.find? now id = none)
    (hfails : v.server.Fails) :
    v.verify token now = (.error .keysUnavailable, { v with server := v.server.fetch.2 }) := by
  simp only [verify, hnamed, keyOf, hmiss, refresh, KeyServer.fails_iff.mp hfails]

/-- If the server is asked and gives the key, the token is looked at with it. -/
theorem verify_fetched (hnamed : namedKey? token = some id) (hmiss : v.cache.find? now id = none)
    (hgives : v.server.Gives keys) (hfound : keys.find? id = some key) :
    v.verify token now = (v.identityBy key now token, v.refreshed keys now) := by
  simp only [verify, hnamed, keyOf, hmiss, refresh, KeyServer.gives_iff.mp hgives, hfound]
  rfl

/-- If the server is asked and gives only other keys, the token is refused. -/
theorem verify_absent (hnamed : namedKey? token = some id) (hmiss : v.cache.find? now id = none)
    (hgives : v.server.Gives keys) (hlack : keys.find? id = none) :
    v.verify token now = (.error .invalidToken, v.refreshed keys now) := by
  simp only [verify, hnamed, keyOf, hmiss, refresh, KeyServer.gives_iff.mp hgives, hlack]
  rfl

end ways

/-- What a call comes to: its answer, and the verifier afterwards. -/
inductive Answers (v : Verifier) (token : String) (now : Int) :
    Except Refusal Identity × Verifier → Prop where
  /-- The token names no key: nothing is asked. -/
  | unnamed (unnamed : namedKey? token = none) : Answers v token now (.error .invalidToken, v)
  /-- The key is known. -/
  | known {id : String} {key : Key} (named : namedKey? token = some id)
      (hit : v.cache.find? now id = some key) :
      Answers v token now (v.identityBy key now token, v)
  /-- The server is asked and gives no keys. -/
  | failed {id : String} (named : namedKey? token = some id) (miss : v.cache.find? now id = none)
      (fails : v.server.Fails) :
      Answers v token now (.error .keysUnavailable, { v with server := v.server.fetch.2 })
  /-- The server is asked and gives the key, perhaps with others. -/
  | fetched {id : String} {keys : KeySet} {key : Key} (named : namedKey? token = some id)
      (miss : v.cache.find? now id = none) (gives : v.server.Gives keys)
      (found : keys.find? id = some key) :
      Answers v token now (v.identityBy key now token, v.refreshed keys now)
  /-- The server is asked and gives other keys. -/
  | absent {id : String} {keys : KeySet} (named : namedKey? token = some id)
      (miss : v.cache.find? now id = none) (gives : v.server.Gives keys)
      (lack : keys.find? id = none) :
      Answers v token now (.error .invalidToken, v.refreshed keys now)

/-- **A call goes in one of five ways.** -/
theorem verify_answers (v : Verifier) (token : String) (now : Int) :
    v.Answers token now (v.verify token now) := by
  cases hnamed : namedKey? token with
  | none =>
    rw [verify_unnamed hnamed]
    exact .unnamed hnamed
  | some id =>
    cases hfind : v.cache.find? now id with
    | some key =>
      rw [verify_known hnamed hfind]
      exact .known hnamed hfind
    | none =>
      obtain hfails | ⟨keys, hgives⟩ := v.server.fails_or_gives
      · rw [verify_failed hnamed hfind hfails]
        exact .failed hnamed hfind hfails
      · cases hfound : keys.find? id with
        | some key =>
          rw [verify_fetched hnamed hfind hgives hfound]
          exact .fetched hnamed hfind hgives hfound
        | none =>
          rw [verify_absent hnamed hfind hgives hfound]
          exact .absent hnamed hfind hgives hfound

end Verifier

end TenantOnboarding.Google
