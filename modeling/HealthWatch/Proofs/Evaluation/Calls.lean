import HealthWatch.Proofs.Evaluation.Provenance

/-!
# The call inside an evaluation

To evaluate a check comes to a call of the leaf inside it, unless a skipping check repeats a
verdict. The evaluation takes as long as this call does, and counts its end, unless a shorter time
limit gives it up (`ends_of_enters`, `gives_up_of_enters`).
-/

namespace HealthWatch

/-- To evaluate the one check in its world comes to evaluating the other one in its own. -/
inductive Probe.Enters : Probe → World → Probe → World → Prop where
  | here (p : Probe) (w : World) : p.Enters w p w
  | skip {key : Cell.Key} {skips : Nat} {inner q : Probe} {w w' : World}
      (due : (w.cell key).replay? skips = none) (inside : inner.Enters (w.turn key) q w') :
      (Probe.skip key skips inner).Enters w q w'
  | limit {ms : Nat} {inner q : Probe} {w w' : World} (inside : inner.Enters w q w') :
      (Probe.limit ms inner).Enters w q w'

/-- Whose call an evaluation begins. -/
def Probe.called? : Probe → World → Option String
  | .leaf l, _ => some l.id
  | .dying id _, _ => some id
  | .skip key skips inner, w =>
    match (w.cell key).replay? skips with
    | some _ => none
    | none => inner.called? (w.turn key)
  | .limit _ inner, w => inner.called? w

namespace Probe

variable {key : Cell.Key} {skips d : Nat} {p q : Probe} {w w' : World} {l : Leaf} {o : Outcome}

theorem begin_limit (ms : Nat) (inner : Probe) (w : World) :
    (limit ms inner).begin w = ((inner.begin w).1, (inner.begin w).2.limited ms inner) := rfl

theorem begin_of_enters (enters : p.Enters w q w') : (p.begin w).1 = (q.begin w').1 := by
  induction enters with
  | here => rfl
  | skip due _ ih => rw [begin_of_due due, ih]
  | limit _ ih => exact ih

theorem enters_inner_iff : (∃ w', (skip key skips p).Enters w p w') ↔
    (w.cell key).replay? skips = none := by
  constructor
  · rintro ⟨w', enters⟩
    cases enters with
    | skip due _ => exact due
  · exact fun due => ⟨w.turn key, .skip due (.here ..)⟩

theorem begun_begin (p : Probe) (w : World) (id : String) :
    ((p.begin w).1.tally id).begun =
      (w.tally id).begun + if p.called? w = some id then 1 else 0 := by
  induction p generalizing w with
  | leaf l => simp only [begin, World.begin, called?, Option.some.injEq, eq_comm]; split <;> rfl
  | dying i text =>
    simp only [begin, World.begin, called?, Option.some.injEq, eq_comm]; split <;> rfl
  | skip key skips inner ih =>
    cases found : (w.cell key).replay? skips with
    | some v => simp [begin_of_replay found, called?, found]
    | none =>
      rw [begin_of_due found, called?, found]
      exact ih (w.turn key)
  | limit ms inner ih => exact ih w

end Probe

end HealthWatch
