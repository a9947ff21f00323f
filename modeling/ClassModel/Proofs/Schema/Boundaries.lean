import ClassModel.Proofs.Schema.Accepted
import ClassModel.Proofs.Schema.Passes

/-!
# Where passes end

More passes only make a draft more lenient: what was declared in the present pass has then been
declared in an earlier one. So calls that are accepted remain accepted when passes are begun in
between, wherever no class is open, and they declare the same schema.

* `Draft.Respaced` — the same calls, with passes begun in between;
* `Draft.Relaxes.take`, `Draft.Relaxes.takeAll` — a draft that relaxes another goes on to relax it
  when the calls are respaced;
* `Draft.finish_respaced` — respaced calls are accepted and lead to the same schema.
-/

namespace ClassModel

namespace Draft

/-- Calls from a draft on, and the same calls with further passes begun among them, wherever no
class is open. -/
inductive Respaced : Draft → List Call → List Call → Prop
  | done (draft : Draft) : Respaced draft [] []
  | call {draft : Draft} {call : Call} {calls spaced : List Call}
      (h : Respaced (draft.after call) calls spaced) :
      Respaced draft (call :: calls) (call :: spaced)
  | extra {draft : Draft} {calls spaced : List Call} (hclosed : draft.opened = none)
      (h : Respaced draft calls spaced) : Respaced draft calls (.beginPass :: spaced)

theorem Eased.exists_ok {x : Except SchemaError Draft} {old : Draft} (h : Eased x (.ok old)) :
    ∃ draft, x = .ok draft ∧ draft.Relaxes old := by
  cases h with
  | accepted hrelaxes => exact ⟨_, rfl, hrelaxes⟩

theorem exists_beginPass {draft : Draft} (hclosed : draft.opened = none) :
    ∃ next, draft.beginPass = .ok next ∧ next.Alike draft :=
  ⟨{ draft with pass := draft.pass + 1 }, beginPass_eq_ok.mpr ⟨hclosed, rfl⟩, rfl, rfl, rfl, rfl⟩

namespace Relaxes

variable {draft old next last : Draft}

theorem refl (draft : Draft) : draft.Relaxes draft where
  name := rfl
  qualifier := rfl
  opened := rfl
  classes := List.forall₂_same.mpr fun _ _ =>
    ⟨rfl, rfl, rfl, id, List.forall₂_same.mpr fun _ _ => ⟨rfl, id⟩⟩

/-- A further pass leaves no marks of the present one. -/
theorem extra (h : draft.Relaxes old) (hsound : draft.Sound) (hclosed : old.opened = none) :
    ∃ later, draft.beginPass = .ok later ∧ later.Relaxes old := by
  rcases exists_beginPass (h.opened.trans hclosed) with ⟨later, hlater, halike⟩
  exact ⟨later, hlater, (halike.trans h.alike).relaxes (hsound.unmarked hlater)⟩

theorem declare (h : draft.Relaxes old) {declarations : List Declaration}
    (hnext : old.declare declarations = .ok next) :
    ∃ later, draft.declare declarations = .ok later ∧ later.Relaxes next := by
  induction declarations generalizing draft old with
  | nil =>
    rw [declare_nil, Except.ok.injEq] at hnext
    exact ⟨draft, rfl, hnext ▸ h⟩
  | cons declaration rest ih =>
    rw [declare_cons] at hnext
    rcases bind_eq_ok.mp hnext with ⟨mid, hmid, hrest⟩
    have heased := h.apply declaration
    rw [hmid] at heased
    rcases heased.exists_ok with ⟨mid', hmid', hrelaxes⟩
    rcases ih hrelaxes hrest with ⟨later, hlater, hkept⟩
    refine ⟨later, ?_, hkept⟩
    rw [declare_cons, hmid']
    exact hlater

/-- One call made on both drafts. -/
theorem take (h : draft.Relaxes old) (hsound : draft.Sound) {call : Call}
    (hnext : old.take call = .ok next) :
    ∃ later, draft.take call = .ok later ∧ later.Relaxes next := by
  cases call with
  | beginPass =>
    rcases beginPass_eq_ok.mp hnext with ⟨hclosed, rfl⟩
    rcases h.extra hsound hclosed with ⟨later, hlater, hrelaxes⟩
    -- marks of the past are not of the pass that begins, on either side
    have halike : later.Alike { old with pass := old.pass + 1 } :=
      ⟨hrelaxes.name, hrelaxes.qualifier, hrelaxes.opened, hrelaxes.alike.classes⟩
    exact ⟨later, hlater, halike.relaxes (hsound.unmarked hlater)⟩
  | apply declaration =>
    have hdeclared : old.declare [declaration] = .ok next :=
      (old.declare_singleton declaration).trans hnext
    rcases h.declare hdeclared with ⟨later, hlater, hrelaxes⟩
    rw [declare_singleton] at hlater
    exact ⟨later, hlater, hrelaxes⟩
  | applyAll declarations => exact h.declare hnext

/-- Calls made on one draft, and made with further passes on a draft that relaxes it. -/
theorem takeAll (h : draft.Relaxes old) (hsound : draft.Sound) {calls spaced : List Call}
    (hspaced : old.Respaced calls spaced) (hlast : old.takeAll calls = .ok last) :
    ∃ later, draft.takeAll spaced = .ok later ∧ later.Relaxes last := by
  induction hspaced generalizing draft with
  | done =>
    rw [takeAll_nil, Except.ok.injEq] at hlast
    exact ⟨draft, rfl, hlast ▸ h⟩
  | @call old call calls spaced _ ih =>
    rcases takeAll_cons_eq_ok.mp hlast with ⟨next, hnext, hrest⟩
    rcases h.take hsound hnext with ⟨mid, hmid, hrelaxes⟩
    have hsound' : mid.Sound := by
      rw [← after_of_take hmid]
      exact hsound.after call
    rw [after_of_take hnext] at ih
    rcases ih hrelaxes hsound' hrest with ⟨later, hlater, hkept⟩
    exact ⟨later, takeAll_cons_eq_ok.mpr ⟨mid, hmid, hlater⟩, hkept⟩
  | extra hclosed _ ih =>
    rcases h.extra hsound hclosed with ⟨mid, hmid, hrelaxes⟩
    rcases ih hrelaxes (hsound.beginPass hmid) hlast with ⟨later, hlater, hkept⟩
    exact ⟨later, takeAll_cons_eq_ok.mpr ⟨mid, hmid, hlater⟩, hkept⟩

end Relaxes

/-- Let calls be accepted on a draft that calls of any kind have led to. With further passes begun
among them, wherever no class is open, they are accepted as well; and if no class is open at the
end, both leave the same schema. -/
theorem finish_respaced (name : String) (qualifier : Option String) (before : List Call)
    {calls spaced : List Call} {last : Draft}
    (hspaced : ((start name qualifier).run before).Respaced calls spaced)
    (hlast : ((start name qualifier).run before).takeAll calls = .ok last) :
    ∃ later, ((start name qualifier).run before).takeAll spaced = .ok later ∧
      (last.opened = none → ∃ schema, last.finish = .ok schema ∧ later.finish = .ok schema) := by
  have hsound := sound_run name qualifier before
  rcases (Relaxes.refl _).takeAll hsound hspaced hlast with ⟨later, hlater, hrelaxes⟩
  refine ⟨later, hlater, fun hclosed => ?_⟩
  have hfinish := finish_eq_ok.mpr ⟨hclosed, rfl⟩
  exact ⟨_, hfinish, hrelaxes.alike.finish.trans hfinish⟩

/-- Two classes and, in a pass of their own, one of them again. -/
def shelfCalls : List Call :=
  [.apply (.openClass "Shelf" ["Thing"]), .apply (.field ⟨"width", .attr "int"⟩),
    .apply .closeClass, .apply (.openClass "Thing" []), .apply .closeClass,
    .beginPass,
    .apply (.openClass "Shelf" ["Room"]), .apply (.field ⟨"width", .attr "String"⟩),
    .apply .closeClass]

/-- The same calls with a pass before, between the classes, and after. -/
def spacedShelfCalls : List Call :=
  .beginPass :: shelfCalls.take 3 ++ .beginPass :: shelfCalls.drop 3 ++ [.beginPass, .beginPass]

theorem finish_respaced_shelves :
    ∃ later, ((start "rooms" none).run [.apply .closeClass, .beginPass]).takeAll spacedShelfCalls =
        .ok later ∧
      later.finish = .ok ⟨"rooms", none,
        [⟨0, "Shelf", ["Thing", "Room"], [⟨"width", 0, .attr "int"⟩], false⟩,
          ⟨1, "Thing", [], [], false⟩]⟩ := by
  have hspaced : ((start "rooms" none).run [.apply .closeClass, .beginPass]).Respaced
      shelfCalls spacedShelfCalls := by
    refine .extra rfl (.call (.call (.call (.extra rfl (.call (.call (.call (.call (.call
      (.call ?_))))))))))
    exact .extra rfl (.extra rfl (.done _))
  have hshelves : ∃ last, ((start "rooms" none).run [.apply .closeClass, .beginPass]).takeAll
      shelfCalls = .ok last ∧ last.opened = none := ⟨_, rfl, rfl⟩
  rcases hshelves with ⟨last, hlast, hclosed⟩
  rcases finish_respaced "rooms" none _ hspaced hlast with ⟨later, hlater, hsame⟩
  refine ⟨later, hlater, ?_⟩
  rcases hsame hclosed with ⟨schema, hfinish, hfinish'⟩
  rw [hfinish', ← hfinish]
  obtain rfl := Except.ok.inj hlast
  rfl

end Draft

end ClassModel
