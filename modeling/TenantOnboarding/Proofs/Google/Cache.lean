import TenantOnboarding.Proofs.Google.Calls

/-!
# What the cache holds

Calls come to a verifier one after another, and the server of keys may be a different one at each of them.

* `Verifier.fetches` lists what the server gave out during the calls, as it shows at the server.
* `Verifier.cache_answer` is what one call does to the cache, and `Verifier.cache_after` what a run does.
* **`Verifier.keeps_last_answer`**: the cache holds what was given out last and nothing else, and within
  the hour it decides whether the server is asked.
-/

namespace TenantOnboarding.Google

open Json Token

/-- A call: a token, the second in which it is shown, and the server of keys as it is then. -/
structure Call where
  token : String
  now : Int
  server : KeyServer

/-- What the server gave out, and when. -/
structure Fetch where
  keys : KeySet
  second : Int

/-- The cache that holds what was given out last. -/
def KeyCache.ofLast : Option Fetch → KeyCache
  | none => .empty
  | some f => ⟨f.keys, some f.second⟩

/-- Within the hour, what is found is found among the keys that were given out last. -/
theorem KeyCache.find?_ofLast {last : Option Fetch} {now : Int}
    (htime : ∀ f, last = some f → now - f.second ≤ 3600) (id : String) :
    (ofLast last).find? now id = (ofLast last).keys.find? id := by
  cases last with
  | none => rfl
  | some f => exact if_pos (htime f rfl)

/-- A fetch is counted. -/
theorem KeyServer.asked_fetch (s : KeyServer) : s.fetch.2.asked = s.asked + 1 := by
  unfold fetch
  dsimp only
  split
  · split <;> rfl
  · rfl

/-- A server is another one after a fetch. -/
theorem KeyServer.fetch_ne (s : KeyServer) : s.fetch.2 ≠ s := by
  intro hsame
  have hasked := s.asked_fetch
  rw [hsame] at hasked
  omega

namespace Verifier

/-- A verifier when the server of keys has become another one. -/
def facing (v : Verifier) (s : KeyServer) : Verifier :=
  { v with server := s }

/-- The server is the other one. -/
@[simp]
theorem facing_server (v : Verifier) (s : KeyServer) : (v.facing s).server = s := rfl

/-- The cache is the same. -/
@[simp]
theorem facing_cache (v : Verifier) (s : KeyServer) : (v.facing s).cache = v.cache := rfl

/-- What a call comes to. -/
def answer (v : Verifier) (q : Call) : Except Refusal Identity × Verifier :=
  (v.facing q.server).verify q.token q.now

/-- A verifier after calls. -/
def after (v : Verifier) (calls : List Call) : Verifier :=
  calls.foldl (fun v q => (v.answer q).2) v

/-- Calls come one after another. -/
theorem after_cons (v : Verifier) (q : Call) (calls : List Call) :
    v.after (q :: calls) = (v.answer q).2.after calls := rfl

/-- What the server gave out in a call. Whether it was asked shows at the server. -/
def given? (v : Verifier) (q : Call) : Option KeySet :=
  if (v.answer q).2.server = q.server then none else q.server.fetch.1.bind KeyAnswer.keys?

/-- What the server gave out during calls. -/
def fetches (v : Verifier) : List Call → List Fetch
  | [] => []
  | q :: calls =>
    ((v.given? q).map fun keys => ⟨keys, q.now⟩).toList ++ (v.answer q).2.fetches calls

variable {v : Verifier} {q : Call}

/-- **A call leaves the cache as it is, or puts what was given out in its place.** -/
theorem cache_answer (v : Verifier) (q : Call) :
    (v.answer q).2.cache = ((v.given? q).map fun keys => ⟨keys, some q.now⟩).getD v.cache := by
  have hanswers := (v.facing q.server).verify_answers q.token q.now
  change Answers _ _ _ (v.answer q) at hanswers
  unfold given?
  generalize v.answer q = outcome at hanswers ⊢
  -- That keys are given shows at the server.
  have hgiven : ∀ {keys : KeySet}, q.server.Gives keys → (⟨keys, some q.now⟩ : KeyCache) =
      ((if q.server.fetch.2 = q.server then none else q.server.fetch.1.bind KeyAnswer.keys?).map
        fun keys => ⟨keys, some q.now⟩).getD v.cache := by
    intro keys hgives
    rw [if_neg q.server.fetch_ne, KeyServer.gives_iff.mp hgives]
    rfl
  cases hanswers with
  | unnamed => simp
  | known => simp
  | failed hnamed hmiss hfails =>
    have hnone : q.server.fetch.1.bind KeyAnswer.keys? = none := KeyServer.fails_iff.mp hfails
    simp [hnone]
  | fetched hnamed hmiss hgives => exact hgiven hgives
  | absent hnamed hmiss hgives => exact hgiven hgives

/-- **After calls the cache holds what was given out last.** -/
theorem cache_after (v : Verifier) (calls : List Call) :
    (v.after calls).cache =
      ((v.fetches calls).getLast?.map fun f => ⟨f.keys, some f.second⟩).getD v.cache := by
  induction calls generalizing v with
  | nil => rfl
  | cons q calls ih =>
    rw [after_cons, ih, cache_answer, fetches, List.getLast?_append]
    cases hlast : ((v.answer q).2.fetches calls).getLast? with
    | some f => rfl
    | none => cases v.given? q <;> rfl

/-- A token names a key: its header can be read and has the algorithm and the key. -/
def Names (token id : String) : Prop :=
  Header.ofToken? token = some ⟨.rs256, some id⟩

/-- A call has to ask: its token names a key that is not in the cache. -/
def Asks (v : Verifier) (q : Call) : Prop :=
  ∃ id, Names q.token id ∧ v.cache.keys.find? id = none

/-- What a call does when the keys in the cache are still good. -/
structure Serves (v : Verifier) (q : Call) : Prop where
  /-- If it has to ask, it asks once. -/
  asked : v.Asks q → (v.answer q).2.server = q.server.fetch.2 ∧
    (v.answer q).2.server.asked = q.server.asked + 1
  /-- Otherwise it does not ask, and nothing changes. -/
  unasked : ¬v.Asks q → (v.answer q).2 = v.facing q.server
  /-- If the server fails, this is the answer, and the cache is as it was. -/
  failed : v.Asks q → q.server.Fails →
    v.answer q = (.error .keysUnavailable, v.facing q.server.fetch.2)
  /-- If the server gives keys, they are kept. -/
  given : v.Asks q → ∀ keys, q.server.Gives keys → (v.answer q).2.cache = ⟨keys, some q.now⟩
  /-- If the key that is named is not among them, the token is refused. -/
  absent : ∀ id keys, Names q.token id → v.cache.keys.find? id = none → q.server.Gives keys →
    keys.find? id = none → (v.answer q).1 = .error .invalidToken
  /-- For a key in the cache the answer is the same whatever the server is. -/
  known : ∀ id key, Names q.token id → v.cache.keys.find? id = some key →
    ∀ s, (v.answer { q with server := s }).1 = (v.answer q).1

/-- Within the hour a call does this. -/
theorem serves_of_ofLast {last : Option Fetch} (hcache : v.cache = .ofLast last)
    (htime : ∀ f, last = some f → q.now - f.second ≤ 3600) : v.Serves q := by
  -- Within the hour the keys in the cache are all that counts, whatever the server is.
  have hfind : ∀ s id, (v.facing s).cache.find? q.now id = v.cache.keys.find? id := by
    intro s id
    rw [facing_cache, hcache, KeyCache.find?_ofLast htime]
  have hserver : v.Asks q → (v.answer q).2.server = q.server.fetch.2 := by
    rintro ⟨id, hnames, hlack⟩
    have hnamed := namedKey?_eq_some_iff.mpr hnames
    rw [← hfind q.server] at hlack
    obtain hfails | ⟨keys, hgives⟩ := q.server.fails_or_gives
    · rw [answer, verify_failed hnamed hlack hfails]
      rfl
    · cases hfound : keys.find? id with
      | some key =>
        rw [answer, verify_fetched hnamed hlack hgives hfound]
        rfl
      | none =>
        rw [answer, verify_absent hnamed hlack hgives hfound]
        rfl
  refine ⟨?_, ?_, ?_, ?_, ?_, ?_⟩
  · intro hasks
    refine ⟨hserver hasks, ?_⟩
    rw [hserver hasks, KeyServer.asked_fetch]
  · intro hasks
    cases hnamed : namedKey? q.token with
    | none => rw [answer, verify_unnamed hnamed]
    | some id =>
      cases hhit : v.cache.keys.find? id with
      | none => exact absurd ⟨id, namedKey?_eq_some_iff.mp hnamed, hhit⟩ hasks
      | some key =>
        rw [← hfind q.server] at hhit
        rw [answer, verify_known hnamed hhit]
  · rintro ⟨id, hnames, hlack⟩ hfails
    rw [← hfind q.server] at hlack
    rw [answer, verify_failed (namedKey?_eq_some_iff.mpr hnames) hlack hfails]
    rfl
  · intro hasks keys hgives
    have hne : (v.answer q).2.server ≠ q.server := by
      rw [hserver hasks]
      exact q.server.fetch_ne
    rw [cache_answer, given?, if_neg hne, KeyServer.gives_iff.mp hgives]
    rfl
  · intro id keys hnames hlack hgives hmissing
    rw [← hfind q.server] at hlack
    rw [answer, verify_absent (namedKey?_eq_some_iff.mpr hnames) hlack hgives hmissing]
  · intro id key hnames hhit s
    have hnamed := namedKey?_eq_some_iff.mpr hnames
    have hanswer : ∀ s, ((v.facing s).verify q.token q.now).1 =
        v.identityBy key q.now q.token := by
      intro s
      rw [← hfind s] at hhit
      rw [verify_known hnamed hhit]
      rfl
    exact (hanswer s).trans (hanswer q.server).symm

/-- A new verifier after calls. -/
def reached (audience : String) (server : KeyServer) (calls : List Call) : Verifier :=
  (Verifier.new audience server).after calls

/-- One more call. -/
theorem reached_append (audience : String) (server : KeyServer) (calls : List Call) (q : Call) :
    reached audience server (calls ++ [q]) = ((reached audience server calls).answer q).2 := by
  rw [reached, after, List.foldl_append]
  rfl

/-- What was given out last in calls of a new verifier. -/
def lastFetch? (audience : String) (server : KeyServer) (calls : List Call) : Option Fetch :=
  ((Verifier.new audience server).fetches calls).getLast?

/-- **The cache holds the last answer and nothing else.** After any calls of a verifier, whatever tokens
were shown and whatever the server of keys was and did: the cache is what was given out last, and empty if
nothing was; under a name it has the last key of that name. The next call, within an hour after that, asks
the server once if its token names a key that is not in the cache, and not at all otherwise; if the server
fails the cache is as it was; and for a token whose key is in the cache the answer does not depend on the
server. -/
theorem keeps_last_answer (audience : String) (server : KeyServer) (earlier : List Call) :
    (reached audience server earlier).cache = .ofLast (lastFetch? audience server earlier) ∧
    (∀ id, (reached audience server earlier).cache.keys.find? id =
      (((lastFetch? audience server earlier).elim [] (·.keys.keys)).filter (·.id == id)).getLast?) ∧
    ∀ q : Call, (∀ f, lastFetch? audience server earlier = some f → q.now - f.second ≤ 3600) →
      (reached audience server earlier).Serves q := by
  have hcache : (reached audience server earlier).cache =
      .ofLast (lastFetch? audience server earlier) := by
    rw [reached, cache_after, lastFetch?]
    cases ((Verifier.new audience server).fetches earlier).getLast? <;> rfl
  refine ⟨hcache, ?_, ?_⟩
  · intro id
    rw [hcache, KeySet.find?_eq_getLast?]
    cases lastFetch? audience server earlier <;> rfl
  · intro q htime
    exact serves_of_ofLast hcache htime

/-! ## A run -/

/-- The header of a token that names a key. -/
def headerNaming (id : String) : String :=
  "\x7b\x22alg\x22:\x22RS256\x22,\x22kid\x22:\x22" ++ id ++ "\x22\x7d"

/-- A token that names a key and is signed by nobody. -/
def tokenNaming (id : String) : String :=
  String.ofList (partOfText (headerNaming id) ++ ['.', '.'])

/-- The token names the key that its header names. -/
theorem names_tokenNaming {id : String}
    (h : Header.ofPart? (partOfText (headerNaming id)) = some ⟨.rs256, some id⟩) :
    Names (tokenNaming id) id := by
  refine Header.ofToken?_eq_some_iff.mpr
    ⟨⟨partOfText (headerNaming id) ++ ['.'], partOfText (headerNaming id), [], []⟩, ?_, h⟩
  refine ⟨?_, List.not_mem_nil, rfl, List.not_mem_nil⟩
  rw [tokenNaming, String.toList_ofList, List.append_assoc]
  rfl

/-- A set of one key. -/
def sampleBody : String :=
  "\x7b\x22keys\x22:[\x7b\x22kid\x22:\x22k\x22,\x22n\x22:\x22\x22,\x22e\x22:\x22\x22\x7d]\x7d"

/-- A server that gives out the set. -/
def sampleServer : KeyServer := ⟨true, [some ⟨200, Text.Utf8.ofString sampleBody⟩], 0⟩

/-- A server to which there is no connection. -/
def sampleGone : KeyServer := ⟨false, [], 0⟩

/-- The first call, for which the key has to be fetched. -/
def sampleCall : Call := ⟨tokenNaming "k", 0, sampleServer⟩

/-- The first token that names a key makes the verifier fetch it. An hour later the server is gone: another
key cannot be fetched, and the answer for the first key is what it would be otherwise. -/
theorem keeps_last_answer_sample :
    ∃ v, v = reached "c" sampleServer [sampleCall] ∧
      v.cache = ⟨⟨[⟨"k", "", ""⟩]⟩, some 0⟩ ∧
      v.answer ⟨tokenNaming "x", 3600, sampleGone⟩ =
        (.error .keysUnavailable, v.facing { sampleGone with asked := 1 }) ∧
      (v.answer ⟨tokenNaming "k", 3600, sampleGone⟩).1 =
        (v.answer ⟨tokenNaming "k", 3600, sampleServer⟩).1 := by
  have hk : Names (tokenNaming "k") "k" := by
    apply names_tokenNaming
    rw [Header.ofPart?, sourceOfPart?_partOfText]
    decide +kernel
  have hx : Names (tokenNaming "x") "x" := by
    apply names_tokenNaming
    rw [Header.ofPart?, sourceOfPart?_partOfText]
    decide +kernel
  have hgives : sampleServer.Gives ⟨[⟨"k", "", ""⟩]⟩ := by
    refine ⟨⟨200, Text.Utf8.ofString sampleBody⟩, rfl, by decide, ?_⟩
    rw [Text.Utf8.ofString, Text.Utf8.decode_encode]
    exact eq_ok_of_toOption (by decide +kernel)
  have hgone : sampleGone.Fails := .unanswered rfl
  obtain ⟨-, -, hfirst⟩ := keeps_last_answer "c" sampleServer []
  have hserved := hfirst sampleCall (by rintro f ⟨⟩)
  have hreached := reached_append "c" sampleServer [] sampleCall
  rw [List.nil_append] at hreached
  have hcache : (reached "c" sampleServer [sampleCall]).cache =
      ⟨⟨[⟨"k", "", ""⟩]⟩, some 0⟩ := by
    rw [hreached]
    exact hserved.given ⟨"k", hk, rfl⟩ _ hgives
  obtain ⟨hlast, -, hsecond⟩ :=
    keeps_last_answer "c" sampleServer [sampleCall]
  refine ⟨_, rfl, hcache, ?_⟩
  generalize reached "c" sampleServer [sampleCall] = v at *
  have htime : ∀ f, lastFetch? "c" sampleServer [sampleCall] = some f → 3600 - f.second ≤ 3600 := by
    intro f hf
    rw [hcache, hf] at hlast
    have hzero : some 0 = some f.second := congrArg KeyCache.fetchedAt hlast
    have := Option.some.inj hzero
    omega
  constructor
  · have hlack : v.cache.keys.find? "x" = none := by
      rw [hcache]
      rfl
    exact (hsecond ⟨tokenNaming "x", 3600, sampleGone⟩ htime).failed ⟨"x", hx, hlack⟩ hgone
  · have hhit : v.cache.keys.find? "k" = some ⟨"k", "", ""⟩ := by
      rw [hcache]
      rfl
    exact (hsecond ⟨tokenNaming "k", 3600, sampleServer⟩ htime).known "k" _ hk hhit sampleGone

end Verifier

end TenantOnboarding.Google
