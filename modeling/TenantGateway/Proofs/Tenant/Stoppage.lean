import TenantGateway.Proofs.Tenant.Loop

/-! A refresh loop and the call that stops it. The fetch of a cycle takes its time, and others set
entries of the cache meanwhile. -/
namespace TenantGateway.Tenant

/-- What a cycle finds as it begins, and how long the directory takes for its fetch. -/
structure StartedCycle where
  cache : Cache
  refresher : Refresher
  began : Instant
  delay : Duration

namespace StartedCycle

/-- The fetch runs out of time; an answer at the very limit is in time. -/
def timesOut (c : StartedCycle) : Bool := c.refresher.fetchTimeout < c.delay

/-- When the fetch ends, by its answer or by its limit. -/
def due (c : StartedCycle) : Instant :=
  c.began + if c.timesOut then c.refresher.fetchTimeout else c.delay

/-- What the fetch gives when it ends. -/
def outcome (c : StartedCycle) (answer : Except DirectoryError Snapshot) :
    Except RefreshError Snapshot :=
  if c.timesOut then .error (.timeout c.refresher.fetchTimeout) else answer.mapError .directory

private theorem ok_of_outcome {c : StartedCycle} {answer : Except DirectoryError Snapshot}
    {s : Snapshot} (h : c.outcome answer = .ok s) : c.timesOut = false ∧ answer = .ok s := by
  unfold outcome at h
  split at h
  next => cases h
  next htime =>
    cases answer with
    | error e => cases h
    | ok s' =>
      cases h
      exact ⟨eq_false_of_ne_true htime, rfl⟩

private theorem failed_of_outcome {c : StartedCycle} {answer : Except DirectoryError Snapshot}
    {e : RefreshError} (h : c.outcome answer = .error e) :
    c.timesOut = true ∨ ∃ e', answer = .error e' := by
  unfold outcome at h
  split at h
  next htime => exact .inl htime
  next =>
    cases answer with
    | error e' => exact .inr ⟨e', rfl⟩
    | ok s => cases h

end StartedCycle

/-- The call that stops a loop. -/
inductive StopCall where
  | unmade
  | waiting (deadline : Instant)
  | returned
  deriving DecidableEq

/-- A refresh loop and the call that stops it, over a cache of which others set entries. -/
structure Stoppage where
  loop : RefreshLoop
  cache : Cache
  now : Instant
  call : StopCall
  /-- The latest cycle. -/
  cycle : Option StartedCycle
  /-- What the directory has given for it. -/
  answer : Option (Except DirectoryError Snapshot)
  /-- What others have set since it began. -/
  others : List Entry
  /-- The number of fetches so far. -/
  fetches : Nat

namespace Stoppage

inductive Event where
  | advance (span : Duration)
  /-- Someone else sets one entry. -/
  | upsert (e : Entry)
  /-- The loop takes a turn; the directory will take `delay` for the fetch if that begins one. -/
  | turn (delay : Duration)
  | fetched (answer : Except DirectoryError Snapshot)
  | requestStop (grace : Duration)
  /-- The call finds that the loop has ended. -/
  | join
  /-- The call has waited for the whole grace. -/
  | expire

def turn (s : Stoppage) (delay : Duration) : Stoppage :=
  let loop := s.loop.turn s.now
  if loop.inCycle ∧ ¬s.loop.inCycle then
    { s with
      loop
      cycle := some { cache := s.cache, refresher := s.loop.refresher, began := s.now, delay }
      answer := none
      others := []
      fetches := s.fetches + 1 }
  else { s with loop }

/-- A turn leaves the call that stops the loop where it is. -/
theorem call_turn (s : Stoppage) (delay : Duration) : (s.turn delay).call = s.call := by
  simp only [turn]
  split <;> rfl

def fetched (s : Stoppage) (answer : Except DirectoryError Snapshot) : Stoppage :=
  match s.cycle with
  | none => s
  | some c =>
    if s.loop.inCycle ∧ c.due ≤ s.now then
      let settled := s.loop.settle s.cache s.now (c.outcome answer)
      { s with loop := settled.1, cache := settled.2.1, answer := some answer }
    else s

/-- So does the answer to a fetch. -/
theorem call_fetched (s : Stoppage) (answer : Except DirectoryError Snapshot) :
    (s.fetched answer).call = s.call := by
  unfold fetched
  split
  · rfl
  · split <;> rfl

/-- Asks the loop to stop, once. -/
def requestStop (s : Stoppage) (grace : Duration) : Stoppage :=
  match s.call with
  | .unmade => { s with loop := s.loop.requestStop, call := .waiting (s.now + grace) }
  | _ => s

def join (s : Stoppage) : Stoppage :=
  match s.call with
  | .waiting _ => if s.loop.hasEnded then { s with call := .returned } else s
  | _ => s

def expire (s : Stoppage) : Stoppage :=
  match s.call with
  | .waiting deadline =>
    if deadline ≤ s.now then { s with loop := s.loop.abort, call := .returned } else s
  | _ => s

def step (s : Stoppage) : Event → Stoppage
  | .advance span => { s with now := s.now + span }
  | .upsert e => { s with cache := s.cache.upsert e, others := s.others ++ [e] }
  | .turn delay => s.turn delay
  | .fetched answer => s.fetched answer
  | .requestStop grace => s.requestStop grace
  | .join => s.join
  | .expire => s.expire

/-- A loop that starts with any figures over any cache. -/
def open_ (refresher : Refresher) (cache : Cache) (period : Duration) : Stoppage :=
  { loop := .ofRefresher refresher period
    cache, now := .start, call := .unmade, cycle := none, answer := none, others := []
    fetches := 0 }

def run (refresher : Refresher) (cache : Cache) (period : Duration) (events : List Event) :
    Stoppage :=
  events.foldl step (open_ refresher cache period)

theorem run_append (refresher : Refresher) (cache : Cache) (period : Duration)
    (events more : List Event) :
    run refresher cache period (events ++ more) =
      more.foldl step (run refresher cache period events) := List.foldl_append

theorem run_snoc (refresher : Refresher) (cache : Cache) (period : Duration) (events : List Event)
    (e : Event) :
    run refresher cache period (events ++ [e]) = (run refresher cache period events).step e :=
  run_append ..

/-- The clock can represent the end of the entries that a fetch gives. -/
def Lasting (s : Stoppage) : Event → Prop
  | .fetched (.ok _) =>
    s.loop.inCycle = true → (s.now + Duration.ofSeconds s.loop.refresher.ttlSeconds).InRange
  | _ => True

/-- Time does not pass over the end of a fetch. -/
def Prompt (s : Stoppage) : Event → Prop
  | .advance span => s.loop.inCycle = true → ∀ c, s.cycle = some c → s.now + span ≤ c.due
  | _ => True

/-- A condition on every event of a run that starts in a state. -/
def Throughout (P : Stoppage → Event → Prop) (s : Stoppage) : List Event → Prop
  | [] => True
  | e :: events => P s e ∧ Throughout P (s.step e) events

/-- All that an event can lead to. -/
inductive Move (s : Stoppage) : Event → Stoppage → Prop where
  | idle (e : Event) : Move s e s
  | advanced (span : Duration) : Move s (.advance span) { s with now := s.now + span }
  | upserted (e : Entry) :
    Move s (.upsert e) { s with cache := s.cache.upsert e, others := s.others ++ [e] }
  | stopped (delay : Duration) (between : s.loop.IsBetween) (stopping : s.loop.stopping = true) :
    Move s (.turn delay) { s with loop := s.loop.stop }
  | broken (delay : Duration) (fresh : s.loop.phase = .fresh) (period : s.loop.period.nanos = 0) :
    Move s (.turn delay) { s with loop := { s.loop with phase := .broken } }
  | began (delay : Duration) (tick : Instant) (between : s.loop.IsBetween)
      (going : s.loop.stopping = false) :
    Move s (.turn delay)
      { s with
        loop := { s.loop with phase := .fetching tick, refresher := s.loop.refresher.beginCycle }
        cycle := some { cache := s.cache, refresher := s.loop.refresher, began := s.now, delay }
        answer := none
        others := []
        fetches := s.fetches + 1 }
  | failed (answer : Except DirectoryError Snapshot) (c : StartedCycle) (tick : Instant)
      (inside : s.loop.inCycle = true) (cycle : s.cycle = some c)
      (cause : c.timesOut = true ∨ ∃ e, answer = .error e) :
    Move s (.fetched answer)
      { s with
        loop := { s.loop with phase := .waiting tick, refresher := s.loop.refresher.fail }
        answer := some answer }
  | refreshed (snapshot : Snapshot) (c : StartedCycle) (tick : Instant)
      (entries : Std.ExtTreeMap Fingerprint Entry) (inside : s.loop.inCycle = true)
      (cycle : s.cycle = some c) (due : c.due ≤ s.now) (inTime : c.timesOut = false)
      (given : ∀ f, entries[f]? =
        snapshot[f]?.map fun r => Entry.given s.loop.refresher.ttlSeconds f r s.now) :
    Move s (.fetched (.ok snapshot))
      { s with
        loop := { s.loop with
          phase := .waiting tick
          refresher := s.loop.refresher.succeed (s.cache.difference snapshot) s.now }
        cache := s.cache.replaceAll entries
        answer := some (.ok snapshot) }
  | requested (grace : Duration) (unmade : s.call = .unmade) :
    Move s (.requestStop grace)
      { s with loop := s.loop.requestStop, call := .waiting (s.now + grace) }
  | returned (e : Event) (deadline : Instant) (waiting : s.call = .waiting deadline)
      (ended : s.loop.hasEnded = true) :
    Move s e { s with call := .returned }
  | aborted (deadline : Instant) (waiting : s.call = .waiting deadline) (expired : deadline ≤ s.now)
      (going : s.loop.hasEnded = false) :
    Move s .expire { s with loop := s.loop.stop, call := .returned }

variable {s t u v : Stoppage} {e : Event} {c : StartedCycle}

private theorem turn_move (s : Stoppage) (delay : Duration) :
    Move s (.turn delay) (s.turn delay) := by
  unfold turn
  rcases s.loop.turn_cases s.now with
    hsame | ⟨hbetween, ⟨hstopping, hstop⟩ | ⟨hfresh, hperiod, hbreak⟩ | ⟨hgoing, tick, hbegin⟩⟩
  · rw [hsame, if_neg fun h => h.2 h.1]
    exact .idle _
  · rw [hstop, if_neg fun h => nomatch h.1]
    exact .stopped delay hbetween hstopping
  · rw [hbreak, if_neg fun h => nomatch h.1]
    exact .broken delay hfresh hperiod
  · have hout := RefreshLoop.inCycle_of_isBetween hbetween
    rw [hbegin, if_pos ⟨rfl, fun h => nomatch hout.symm.trans h⟩]
    exact .began delay tick hbetween hgoing

private theorem fetched_move {answer : Except DirectoryError Snapshot}
    (h : s.Lasting (.fetched answer)) : Move s (.fetched answer) (s.fetched answer) := by
  unfold fetched
  split
  next => exact .idle _
  next c hcycle =>
    split
    next hdue =>
      obtain ⟨hin, hdue⟩ := hdue
      rcases s.loop.settle_cases s.cache s.now (c.outcome answer) with
        ⟨hphase, -⟩ | ⟨tick, hphase, ⟨e, houtcome, hloop, hcache⟩ |
        ⟨snapshot, entries, houtcome, hentries, hloop, hcache⟩ |
        ⟨snapshot, houtcome, hrange, -⟩⟩
      · obtain ⟨tick, htick⟩ := RefreshLoop.inCycle_eq_true_iff.mp hin
        exact absurd htick (hphase tick)
      · simp only [hloop, hcache]
        exact .failed answer c tick hin hcycle (StartedCycle.failed_of_outcome houtcome)
      · obtain ⟨htime, rfl⟩ := StartedCycle.ok_of_outcome houtcome
        simp only [hloop, hcache]
        exact .refreshed snapshot c tick entries hin hcycle hdue htime hentries
      · obtain ⟨-, rfl⟩ := StartedCycle.ok_of_outcome houtcome
        exact absurd (h hin) hrange
    next => exact .idle _

/-- Every event that lasts makes one of the moves. -/
theorem move_step (h : s.Lasting e) : Move s e (s.step e) := by
  cases e with
  | advance span => exact .advanced span
  | upsert e => exact .upserted e
  | turn delay => exact s.turn_move delay
  | fetched answer => exact fetched_move h
  | requestStop grace =>
    simp only [step, requestStop]
    split
    next hunmade => exact .requested grace hunmade
    next => exact .idle _
  | join =>
    simp only [step, join]
    split
    next deadline hwaiting =>
      split
      next hended => exact .returned _ deadline hwaiting hended
      next => exact .idle _
    next => exact .idle _
  | expire =>
    simp only [step, expire]
    split
    next deadline hwaiting =>
      split
      next hexpired =>
        unfold RefreshLoop.abort
        split
        next hended => exact .returned _ deadline hwaiting hended
        next hgoing => exact .aborted deadline hwaiting hexpired (eq_false_of_ne_true hgoing)
      next => exact .idle _
    next => exact .idle _

/-- A cycle waits for its fetch, and has done nothing so far. -/
structure Underway (c : StartedCycle) (s : Stoppage) : Prop where
  cycle : s.cycle = some c
  answer : s.answer = none
  refresher : s.loop.refresher = c.refresher.beginCycle
  cache : s.cache = s.others.foldl Cache.upsert c.cache

/-- What holds at every moment. -/
structure Sound (s : Stoppage) : Prop where
  fresh : s.loop.phase = .fresh → s.fetches = 0
  broken : s.loop.phase = .broken → s.loop.period.nanos = 0 ∧ s.fetches = 0
  ended : s.loop.phase = .ended → s.loop.refresher.state = .stopped
  underway : s.loop.inCycle = true → ∃ c, Underway c s
  stopping : s.call ≠ .unmade → s.loop.stopping = true
  returned : s.call = .returned → s.loop.hasEnded = true

/-- An entry that is set meanwhile changes nothing about the cycle. -/
theorem Underway.upsert (h : Underway c s) (e : Entry) :
    Underway c { s with cache := s.cache.upsert e, others := s.others ++ [e] } where
  cycle := h.cycle
  answer := h.answer
  refresher := h.refresher
  cache := by
    rw [List.foldl_append, ← h.cache]
    rfl

/-- A cycle that waits does not see what happens to the call, nor the time. -/
theorem Underway.recalled (h : Underway c s) (loop : RefreshLoop)
    (hrefresher : loop.refresher = s.loop.refresher) (now : Instant) (call : StopCall) :
    Underway c { s with loop, now, call } where
  cycle := h.cycle
  answer := h.answer
  refresher := hrefresher.trans h.refresher
  cache := h.cache

private theorem Sound.unreturned (h : Sound s) (hin : s.loop.inCycle = true) :
    s.call ≠ .returned := by
  intro hcall
  rw [RefreshLoop.inCycle_of_hasEnded (h.returned hcall)] at hin
  cases hin

/-- A move keeps a stoppage sound. -/
theorem Sound.move (h : Sound s) (hmove : Move s e t) : Sound t := by
  cases hmove with
  | idle => exact h
  | advanced span =>
    exact { h with
      underway := fun hin => (h.underway hin).imp fun _ hc => hc.recalled s.loop rfl _ _ }
  | upserted e =>
    exact { h with
      underway := fun hin => (h.underway hin).imp fun _ hc => hc.upsert e }
  | stopped delay hbetween hstopping =>
    exact { h with
      fresh := nofun
      broken := nofun
      ended := fun _ => rfl
      underway := nofun
      returned := fun _ => rfl }
  | broken delay hfresh hperiod =>
    exact { h with
      fresh := nofun
      broken := fun _ => ⟨hperiod, h.fresh hfresh⟩
      ended := nofun
      underway := nofun
      returned := fun _ => rfl }
  | began delay tick hbetween hgoing =>
    exact {
      fresh := nofun
      broken := nofun
      ended := nofun
      underway := fun _ => ⟨_, rfl, rfl, rfl, rfl⟩
      stopping := h.stopping
      returned := by
        intro hcall
        have hstopping := h.stopping (by rw [show s.call = .returned from hcall]; nofun)
        rw [hgoing] at hstopping
        cases hstopping }
  | failed answer c tick hin | refreshed snapshot c tick entries hin =>
    exact { h with
      fresh := nofun
      broken := nofun
      ended := nofun
      underway := nofun
      returned := fun hcall => absurd hcall (h.unreturned hin) }
  | requested grace hunmade =>
    exact { h with
      underway := fun hin => (h.underway hin).imp fun _ hc => hc.recalled s.loop.requestStop rfl _ _
      stopping := fun _ => rfl
      returned := nofun }
  | returned e deadline hwaiting hended =>
    exact { h with
      underway := fun hin => (h.underway hin).imp fun _ hc => hc.recalled s.loop rfl _ _
      stopping := fun _ => h.stopping (by rw [hwaiting]; nofun)
      returned := fun _ => hended }
  | aborted deadline hwaiting hexpired hgoing =>
    exact {
      fresh := nofun
      broken := nofun
      ended := fun _ => rfl
      underway := nofun
      stopping := fun _ => h.stopping (by rw [hwaiting]; nofun)
      returned := fun _ => rfl }

/-- A run keeps a stoppage sound. -/
theorem Sound.foldl {events : List Event} (h : Sound s) (hlasting : Throughout Lasting s events) :
    Sound (events.foldl step s) := by
  induction events generalizing s with
  | nil => exact h
  | cons e events ih => exact ih (h.move (move_step hlasting.1)) hlasting.2

end Stoppage

end TenantGateway.Tenant
