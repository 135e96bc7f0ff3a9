import TenantGateway.Proofs.Metrics.Sums
import TenantGateway.Proofs.Usage.Closing
import TenantGateway.Proofs.Usage.Offers

/-! An emitter reports what its figures count: each event once when it is offered, and once more when
its batch leaves the worker. -/
namespace TenantGateway
open Metrics (Instrument Labels Series latest total)

/-- It is the emitter that reports this. -/
def Measurement.isUsage : Measurement → Bool
  | .usageEvents .. | .usageBatch => true
  | _ => false

namespace Metrics

/-- The emitter reports nothing outside its own two figures. -/
theorem total_of_isUsage {i : Instrument} (hevents : i ≠ .usageEvents)
    (hbatches : i ≠ .usageBatches)
    {ms : List Measurement} (h : ∀ m ∈ ms, m.isUsage) (selector : Labels) :
    total i selector ms = 0 := by
  induction ms with
  | nil => rfl
  | cons m ms ih =>
    rw [total_cons, ih fun m' hm' => h m' (List.mem_cons_of_mem _ hm')]
    have hm := h m List.mem_cons_self
    cases m with
    | usageEvents result count =>
      by_cases hcount : count = 0 <;>
        simp [total, effects, Effect.amount, Series.isOf, hcount, hevents.symm]
    | usageBatch => simp [total, effects, Effect.amount, Series.isOf, hbatches.symm]
    | _ => cases hm

/-- The emitter sets no value. -/
theorem latest_of_isUsage {s : Series} {ms : List Measurement} (h : ∀ m ∈ ms, m.isUsage) :
    latest s ms = none := by
  refine latest_eq_none_iff.mpr fun m hm => ?_
  have hown := h m hm
  cases m with
  | usageEvents result count =>
    by_cases hcount : count = 0 <;> simp [latest, effects, Effect.setting?, hcount]
  | usageBatch => rfl
  | _ => cases hown

private theorem total_usageEvents (result : String) (r : String) (count : UInt64) :
    total .usageEvents [("result", r)] [.usageEvents result count] =
      if r = result then count else 0 := by
  by_cases hcount : count = 0 <;> by_cases hresult : r = result <;>
    simp [total, effects, Effect.amount, Series.isOf, hcount, hresult]

end Metrics

namespace Usage

/-- The figure of the events with a result. -/
def EmitterStats.of (s : EmitterStats) (result : String) : Nat :=
  if result = "enqueued" then s.enqueued
  else if result = "dropped" then s.dropped
  else if result = "published" then s.published
  else if result = "failed" then s.failed
  else 0

namespace Emitter

/-- What has been reported agrees with the figures. -/
structure Reported (m : Emitter) : Prop where
  events : ∀ result,
    total .usageEvents [("result", result)] m.reports = .ofNat (m.stats.of result)
  batches : total .usageBatches [] m.reports = .ofNat m.stats.batches
  own : ∀ r ∈ m.reports, r.isUsage

variable {m n : Emitter}

/-- A new emitter has reported what it has counted, which is nothing. -/
theorem reported_ofSettings (settings : EmitterSettings) : (ofSettings settings).Reported where
  events result := by
    simp [ofSettings, EmitterStats.zero, EmitterStats.of]
  batches := rfl
  own _ hr := absurd hr List.not_mem_nil

private theorem Reported.unchanged (h : m.Reported) (hstats : n.stats = m.stats)
    (hreports : n.reports = m.reports) : n.Reported where
  events := hstats ▸ hreports ▸ h.events
  batches := hstats ▸ hreports ▸ h.batches
  own := hreports ▸ h.own

private theorem Reported.counted (h : m.Reported) {result : String} {count : Nat}
    (hstats : ∀ r, n.stats.of r = m.stats.of r + if r = result then count else 0)
    (hbatches : n.stats.batches = m.stats.batches)
    (hreports : n.reports = m.report result count) : n.Reported where
  events r := by
    rw [hreports, report, Metrics.total_cons, Metrics.total_usageEvents, h.events, hstats,
      UInt64.ofNat_add, UInt64.add_comm]
    split <;> rfl
  batches := by
    rw [hreports, report, Metrics.total_cons, h.batches, hbatches]
    by_cases hcount : UInt64.ofNat count = 0 <;>
      simp [total, Metrics.effects, Metrics.Effect.amount, Series.isOf, hcount]
  own := by
    rw [hreports, report]
    exact List.forall_mem_cons.mpr ⟨rfl, h.own⟩

private theorem Reported.record (h : m.Reported) (e : Event) : (m.record e).2.Reported := by
  rcases m.record_cases e with ⟨-, -, hrecord⟩ | hrecord
  all_goals
    rw [hrecord]
    refine h.counted ?_ rfl rfl
    intro r
    simp only [enqueue, drop, EmitterStats.of]
    split_ifs <;> simp_all

private theorem Reported.batch (h : m.Reported) :
    ({ m with
      stats := { m.stats with batches := m.stats.batches + 1 }
      reports := .usageBatch :: m.reports } : Emitter).Reported where
  events r := by
    rw [Metrics.total_cons, h.events]
    exact UInt64.zero_add _
  batches := by
    rw [Metrics.total_cons, h.batches, UInt64.add_comm]
    exact (UInt64.ofNat_add _ 1).symm
  own := List.forall_mem_cons.mpr ⟨rfl, h.own⟩

private theorem Reported.turn (h : m.Reported) {a : Action} (hturn : Turn m a n) : n.Reported := by
  cases hturn with
  | idle | broken | started | received | filled | finished | lastBatch | idleTick | ticked | paused
  | retried => exact h.unchanged rfl rfl
  | @published batch attempt timer now next hworker =>
    have hevents : ({ m with
        worker := m.resume timer next now
        stats := { m.stats with published := m.stats.published + batch.length }
        reports := m.report "published" batch.length } : Emitter).Reported := by
      refine h.counted ?_ rfl rfl
      intro r
      simp only [EmitterStats.of]
      split_ifs <;> simp_all
    exact hevents.batch
  | abandoned =>
    refine h.counted ?_ rfl rfl
    intro r
    simp only [EmitterStats.of]
    split_ifs <;> simp_all

private theorem Reported.act (h : m.Reported) (a : Action) : (m.act a).Reported := by
  cases a with
  | record e => exact h.record e
  | beginClose => exact h.unchanged rfl rfl
  | start | receive | tick | answer | retry | drain => exact h.turn (m.turn_act rfl)

end Emitter

/-- A step of a close is an action of the emitter, or changes none of its figures and reports. -/
theorem Closing.emitter_step (c : Closing) (e : Closing.Event) :
    (∃ a, (c.step e).books.emitter = c.books.emitter.act a ∧ ∀ x, a = .record x → e = .offer x) ∨
      (c.step e).books.emitter.stats = c.books.emitter.stats ∧
        (c.step e).books.emitter.reports = c.books.emitter.reports := by
  have hmove := c.move_step e
  generalize c.step e = d at hmove
  cases hmove with
  | idle | joined | flushed | timedOut => exact .inr ⟨rfl, rfl⟩
  | offered x =>
    refine .inl ⟨.record x, c.books.emitter_step _, ?_⟩
    rintro y ⟨⟩
    rfl
  | @worked _ a work =>
    refine .inl ⟨a, c.books.emitter_step a, ?_⟩
    rintro x rfl
    cases work
  | begun =>
    refine .inl ⟨.beginClose, c.books.emitter_step .beginClose, ?_⟩
    intro x hx
    cases hx

/-- Whatever happens around a close, the emitter reports what it counts. -/
theorem Closing.reported_step {c : Closing} (h : c.books.emitter.Reported) (e : Closing.Event) :
    (c.step e).books.emitter.Reported := by
  rcases c.emitter_step e with ⟨a, hact, -⟩ | ⟨hstats, hreports⟩
  · rw [hact]
    exact h.act a
  · exact h.unchanged hstats hreports

/-- Only an offer is one. -/
theorem Closing.offers_step {c : Closing} {e : Closing.Event} (h : ∀ x, e ≠ .offer x) :
    (c.step e).books.emitter.offers = c.books.emitter.offers := by
  rcases c.emitter_step e with ⟨a, hact, hrecord⟩ | ⟨hstats, -⟩
  · rw [hact]
    exact Emitter.offers_eq_of_offered
      (Emitter.offered_act _ fun x ha => h x (hrecord x ha))
  · rw [Emitter.offers, hstats, Emitter.offers]

end Usage

end TenantGateway
