/-
Outcomes up to what is not heard of.

Debug records and the resolution of relations are events of a sort, but nobody who
asked for it hears of them. Warnings and calls of custom orderings are heard.

* `Traced` is a lawful monad;
* `Traced.without`: an outcome without the events of a kind, a step at a time
  (`without_bind`), and `Traced.unrecorded` without its debug records;
* `Alike`: two outcomes with one result and the same heard events, an equivalence
  that sequencing keeps (`Alike.bind`);
* `Alike.warnings`, `Alike.calls`: alike outcomes have the same warnings and calls;
* `alike_emit`: an event that is not heard can be left out.
-/
import Mathlib.Tactic.Common
import QueryOrder.Traced

namespace QueryOrder

/-- Whether an event is heard by who asked for the sort. -/
def Event.isHeard : Event → Bool
  | .warning _ => true
  | .call _ _ _ => true
  | .lookup => false
  | .debug _ _ => false

/-- Whether an event is a debug record. -/
def Event.isRecord : Event → Bool
  | .debug _ _ => true
  | .warning _ => false
  | .call _ _ _ => false
  | .lookup => false

namespace Traced

variable {α β γ : Type}

/-! ### The laws of sequencing -/

@[ext]
lemma ext {x y : Traced α} (he : x.events = y.events) (hr : x.result = y.result) : x = y := by
  cases x
  cases y
  simp_all

/-- A step without events that succeeds is its value. -/
lemma pure_bind (a : α) (f : α → Traced β) : (pure a : Traced α) >>= f = f a := by
  rw [bind_of_ok (result_pure a) f]
  rfl

lemma bind_pure (x : Traced α) : x >>= pure = x := by
  rcases h : x.result with failure | a
  · rw [bind_of_error h]
    exact ext rfl h.symm
  · rw [bind_of_ok h]
    exact ext (List.append_nil _) h.symm

lemma bind_assoc (x : Traced α) (f : α → Traced β) (g : β → Traced γ) :
    x >>= f >>= g = x >>= fun a => f a >>= g := by
  rcases h : x.result with failure | a
  · rw [bind_of_error h, bind_of_error h, bind_of_error rfl]
  · rw [bind_of_ok h, bind_of_ok h]
    rcases hf : (f a).result with failure | b
    · rw [bind_of_error hf]
      exact bind_of_error rfl g
    · rw [bind_of_ok hf, ← List.append_assoc]
      exact bind_of_ok rfl g

/-- If the second of two steps never fails, they fail exactly if the first one does. -/
lemma bind_error_iff {x : Traced α} {f : α → Traced β} (hf : ∀ a, ∃ b, (f a).result = .ok b)
    {failure : Failure} : (x >>= f).result = .error failure ↔ x.result = .error failure := by
  rcases h : x.result with failure' | a
  · rw [bind_of_error h, Except.error.injEq, Except.error.injEq]
  · obtain ⟨b, hb⟩ := hf a
    rw [bind_of_ok h, hb]
    simp

instance : LawfulMonad Traced :=
  LawfulMonad.mk' Traced bind_pure pure_bind bind_assoc

/-! ### Outcomes without the events of a kind -/

/-- An outcome without the events of a kind. -/
def without (kind : Event → Bool) (x : Traced α) : Traced α :=
  ⟨x.events.filter fun event => !kind event, x.result⟩

/-- Without an event of the kind nothing is left out. -/
lemma without_of_none {kind : Event → Bool} {x : Traced α}
    (h : ∀ event ∈ x.events, kind event = false) : x.without kind = x := by
  refine ext (List.filter_eq_self.mpr fun event hmem => ?_) rfl
  rw [h event hmem]
  rfl

/-- The events of a kind can be left out of each of two steps on its own. -/
lemma without_bind (kind : Event → Bool) (x : Traced α) (f : α → Traced β) :
    (x >>= f).without kind = x.without kind >>= fun a => (f a).without kind := by
  rcases h : x.result with failure | a
  · have hx : (x.without kind).result = .error failure := h
    rw [bind_of_error h, bind_of_error hx]
    rfl
  · have hx : (x.without kind).result = .ok a := h
    rw [bind_of_ok h, bind_of_ok hx]
    exact ext (List.filter_append _ _) rfl

/-- An outcome without its debug records. -/
def unrecorded (x : Traced α) : Traced α :=
  x.without Event.isRecord

lemma unrecorded_pure (a : α) : (pure a : Traced α).unrecorded = pure a := rfl

lemma unrecorded_bind (x : Traced α) (f : α → Traced β) :
    (x >>= f).unrecorded = x.unrecorded >>= fun a => (f a).unrecorded :=
  without_bind Event.isRecord x f

/-- A debug record on the way can be left out. -/
lemma unrecorded_emit (channel : Channel) (message : String) (f : Unit → Traced α) :
    (emit (.debug channel message) >>= f).unrecorded = (f ()).unrecorded := by
  rw [bind_of_ok rfl]
  rfl

/-- Debug records before an outcome can be left out. -/
lemma unrecorded_of_records {records : List Event}
    (h : ∀ event ∈ records, event.isRecord = true) (x : Traced α) :
    (⟨records ++ x.events, x.result⟩ : Traced α).unrecorded = x.unrecorded := by
  have hnone : (records.filter fun event => !event.isRecord) = [] :=
    List.filter_eq_nil_iff.mpr fun event hmem => by simp [h event hmem]
  refine ext ?_ rfl
  simp only [unrecorded, without, List.filter_append, hnone, List.nil_append]

/-! ### Alike outcomes -/

/-- Two outcomes with one result and the same heard events. -/
structure Alike (x y : Traced α) : Prop where
  result : x.result = y.result
  heard : x.events.filter Event.isHeard = y.events.filter Event.isHeard

namespace Alike

lemma refl (x : Traced α) : Alike x x := ⟨rfl, rfl⟩

lemma trans {x y z : Traced α} (h : Alike x y) (h' : Alike y z) : Alike x z :=
  ⟨h.result.trans h'.result, h.heard.trans h'.heard⟩

/-- Sequencing keeps outcomes alike. -/
lemma bind {x y : Traced α} {f g : α → Traced β} (h : Alike x y) (hfg : ∀ a, Alike (f a) (g a)) :
    Alike (x >>= f) (y >>= g) := by
  rcases hx : x.result with failure | a
  · have hy : y.result = .error failure := h.result ▸ hx
    rw [bind_of_error hx, bind_of_error hy]
    exact ⟨rfl, h.heard⟩
  · have hy : y.result = .ok a := h.result ▸ hx
    rw [bind_of_ok hx, bind_of_ok hy]
    exact ⟨(hfg a).result, by simp only [List.filter_append, h.heard, (hfg a).heard]⟩

/-- What is made of heard events alone is the same of alike outcomes. -/
lemma filterMap_eq {x y : Traced α} (h : Alike x y) {f : Event → Option β}
    (hf : ∀ event, event.isHeard = false → f event = none) :
    x.events.filterMap f = y.events.filterMap f := by
  have key : ∀ events : List Event,
      events.filterMap f = (events.filter Event.isHeard).filterMap f := by
    intro events
    induction events with
    | nil => rfl
    | cons event rest ih =>
        by_cases hevent : event.isHeard = true
        · rw [List.filter_cons_of_pos hevent, List.filterMap_cons, List.filterMap_cons, ih]
        · rw [List.filter_cons_of_neg hevent, List.filterMap_cons, ih,
            hf event (by simpa using hevent)]
  rw [key x.events, key y.events, h.heard]

/-- Alike outcomes have the same warnings. -/
lemma warnings {x y : Traced α} (h : Alike x y) : x.warnings = y.warnings := by
  refine h.filterMap_eq fun event hevent => ?_
  cases event <;> simp_all [Event.isHeard]

/-- Alike outcomes have the same calls of custom orderings. -/
lemma calls {x y : Traced α} (h : Alike x y) : x.calls = y.calls := by
  refine h.filterMap_eq fun event hevent => ?_
  cases event <;> simp_all [Event.isHeard]

end Alike

/-- Outcomes that differ in their debug records at most are alike. -/
lemma alike_of_unrecorded {x y : Traced α} (h : x.unrecorded = y.unrecorded) : Alike x y := by
  have hheard : ∀ z : Traced α,
      z.unrecorded.events.filter Event.isHeard = z.events.filter Event.isHeard := by
    intro z
    rw [unrecorded, without, List.filter_filter]
    refine List.filter_congr fun event _ => ?_
    cases event <;> rfl
  have hresult : x.unrecorded.result = y.unrecorded.result := by rw [h]
  exact ⟨hresult, by rw [← hheard x, ← hheard y, h]⟩

/-- An event that is not heard can be left out. -/
lemma alike_emit {event : Event} (h : event.isHeard = false) (f : Unit → Traced α) :
    Alike (emit event >>= f) (f ()) := by
  rw [bind_of_ok rfl]
  exact ⟨rfl, by simp [emit, h]⟩

end Traced

end QueryOrder
