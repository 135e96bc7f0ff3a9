import TenantGateway.Proofs.Tenant.Cache
import TenantGateway.Tenant.RefreshLoop

/-! All that a turn of the refresh loop and the end of a fetch can lead to. -/
namespace TenantGateway.Tenant.RefreshLoop

/-- The loop waits to begin a cycle. -/
def IsBetween (l : RefreshLoop) : Prop := l.phase = .fresh ∨ ∃ due, l.phase = .waiting due

/-- A loop starts once, and breaks off without a period. -/
theorem start_cases (l : RefreshLoop) (now : Instant) :
    l.start now = l ∨
      l.phase = .fresh ∧ (l.period.nanos = 0 ∧ l.start now = { l with phase := .broken } ∨
        l.stopping = true ∧ l.start now = l.stop ∨
        l.stopping = false ∧ l.start now =
          { l with phase := .fetching (now + l.period), refresher := l.refresher.beginCycle }) := by
  unfold start
  split
  next hphase =>
    right
    refine ⟨hphase, ?_⟩
    split
    next hperiod => exact .inl ⟨hperiod, rfl⟩
    next =>
      split
      next hstopping => exact .inr (.inl ⟨hstopping, rfl⟩)
      next hgoing => exact .inr (.inr ⟨eq_false_of_ne_true hgoing, rfl⟩)
  next => exact .inl rfl

/-- A tick ends a loop that is to stop, and otherwise begins a cycle when it is due. -/
theorem tick_cases (l : RefreshLoop) (now : Instant) :
    l.tick now = l ∨
      ∃ due, l.phase = .waiting due ∧ (l.stopping = true ∧ l.tick now = l.stop ∨
        l.stopping = false ∧ due ≤ now ∧
          l.tick now =
            { l with
              phase := .fetching (Instant.nextTick l.period due now)
              refresher := l.refresher.beginCycle }) := by
  unfold tick
  split
  next due hphase =>
    split
    next hstopping => exact .inr ⟨due, hphase, .inl ⟨hstopping, rfl⟩⟩
    next hgoing =>
      split
      next hdue => exact .inr ⟨due, hphase, .inr ⟨eq_false_of_ne_true hgoing, hdue, rfl⟩⟩
      next => exact .inl rfl
  next => exact .inl rfl

/-- A turn of the loop between cycles. -/
def turn (l : RefreshLoop) (now : Instant) : RefreshLoop :=
  match l.phase with
  | .fresh => l.start now
  | _ => l.tick now

def inCycle (l : RefreshLoop) : Bool :=
  match l.phase with
  | .fetching _ => true
  | _ => false

/-- A loop is in a cycle while it waits for a fetch. -/
theorem inCycle_eq_true_iff {l : RefreshLoop} :
    l.inCycle = true ↔ ∃ tick, l.phase = .fetching tick := by
  unfold inCycle
  split
  next tick hphase => simp only [hphase, LoopPhase.fetching.injEq, exists_eq']
  next hphase => simpa using hphase

/-- Between cycles there is none. -/
theorem inCycle_of_isBetween {l : RefreshLoop} (h : l.IsBetween) : l.inCycle = false := by
  unfold inCycle
  rcases h with h | ⟨due, h⟩ <;> rw [h]

/-- Between cycles the loop has not ended. -/
theorem hasEnded_of_isBetween {l : RefreshLoop} (h : l.IsBetween) : l.hasEnded = false := by
  unfold hasEnded
  rcases h with h | ⟨due, h⟩ <;> rw [h] <;> rfl

/-- A loop that has ended is in no cycle. -/
theorem inCycle_of_hasEnded {l : RefreshLoop} (h : l.hasEnded = true) : l.inCycle = false := by
  unfold inCycle
  split
  next tick hphase => simp [hasEnded, hphase] at h
  next => rfl

/-- A turn of the loop does nothing, or ends, breaks off, starts or begins a cycle between two
cycles. -/
theorem turn_cases (l : RefreshLoop) (now : Instant) :
    l.turn now = l ∨
      l.IsBetween ∧ (l.stopping = true ∧ l.turn now = l.stop ∨
        l.phase = .fresh ∧ l.period.nanos = 0 ∧ l.turn now = { l with phase := .broken } ∨
        l.stopping = false ∧ ∃ tick, l.turn now =
          { l with phase := .fetching tick, refresher := l.refresher.beginCycle }) := by
  unfold turn
  split
  next hfresh =>
    rcases l.start_cases now with hsame | ⟨-, ⟨hperiod, hbreak⟩ | hstop | ⟨hgoing, hbegin⟩⟩
    · exact .inl hsame
    · exact .inr ⟨.inl hfresh, .inr (.inl ⟨hfresh, hperiod, hbreak⟩)⟩
    · exact .inr ⟨.inl hfresh, .inl hstop⟩
    · exact .inr ⟨.inl hfresh, .inr (.inr ⟨hgoing, _, hbegin⟩)⟩
  next =>
    rcases l.tick_cases now with hsame | ⟨due, hdue, hstop | ⟨hgoing, -, hbegin⟩⟩
    · exact .inl hsame
    · exact .inr ⟨.inr ⟨due, hdue⟩, .inl hstop⟩
    · exact .inr ⟨.inr ⟨due, hdue⟩, .inr (.inr ⟨hgoing, _, hbegin⟩)⟩

/-- The end of a fetch: nothing when there is no cycle, else a failure, a new generation, or a break
when the clock cannot represent its end. -/
theorem settle_cases (l : RefreshLoop) (c : Cache) (now : Instant)
    (answer : Except RefreshError Snapshot) :
    ((∀ tick, l.phase ≠ .fetching tick) ∧ l.settle c now answer = (l, c, [])) ∨
      ∃ tick, l.phase = .fetching tick ∧
        ((∃ e, answer = .error e ∧
            (l.settle c now answer).1 =
              { l with phase := .waiting tick, refresher := l.refresher.fail } ∧
            (l.settle c now answer).2.1 = c) ∨
          (∃ s entries, answer = .ok s ∧
            (∀ f, entries[f]? = s[f]?.map fun r => Entry.given l.refresher.ttlSeconds f r now) ∧
            (l.settle c now answer).1 =
              { l with
                phase := .waiting tick
                refresher := l.refresher.succeed (c.difference s) now } ∧
            (l.settle c now answer).2.1 = c.replaceAll entries) ∨
          (∃ s, answer = .ok s ∧ ¬(now + Duration.ofSeconds l.refresher.ttlSeconds).InRange ∧
            (l.settle c now answer).1 =
              { l with
                phase := .broken
                refresher := { l.refresher with state := .swapping } } ∧
            (l.settle c now answer).2.1 = c)) := by
  cases hphase : l.phase with
  | fetching tick =>
    refine .inr ⟨tick, rfl, ?_⟩
    rcases l.refresher.complete_cases c now answer with
      ⟨e, hanswer, hend⟩ | ⟨s, entries, hanswer, hend, hentries⟩ | ⟨s, hanswer, hnone, hend⟩
    · refine .inl ⟨e, hanswer, ?_⟩
      simp only [settle, hphase, hend]
      trivial
    · refine .inr (.inl ⟨s, entries, hanswer, hentries, ?_⟩)
      simp only [settle, hphase, hend]
      trivial
    · refine .inr (.inr ⟨s, hanswer, fun hrange => ?_, ?_⟩)
      · obtain ⟨es, hes⟩ := Snapshot.exists_entries? hrange s
        rw [hnone] at hes
        cases hes
      · simp only [settle, hphase, hend]
        trivial
  | fresh => exact .inl ⟨nofun, by simp only [settle, hphase]⟩
  | waiting due => exact .inl ⟨nofun, by simp only [settle, hphase]⟩
  | ended => exact .inl ⟨nofun, by simp only [settle, hphase]⟩
  | broken => exact .inl ⟨nofun, by simp only [settle, hphase]⟩

/-- An answer ends the cycle. -/
theorem inCycle_settle (l : RefreshLoop) (c : Cache) (now : Instant)
    (answer : Except RefreshError Snapshot) : (l.settle c now answer).1.inCycle = false := by
  rcases l.settle_cases c now answer with
    ⟨hphase, hsame⟩ | ⟨tick, -, ⟨e, -, hloop, -⟩ | ⟨s, entries, -, -, hloop, -⟩ | ⟨s, -, -, hloop, -⟩⟩
  · rw [hsame, Bool.eq_false_iff]
    intro hin
    obtain ⟨tick, htick⟩ := inCycle_eq_true_iff.mp hin
    exact hphase tick htick
  all_goals
    rw [hloop]
    rfl

end TenantGateway.Tenant.RefreshLoop
