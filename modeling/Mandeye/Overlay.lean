import Mathlib.Logic.Function.Basic

/-! Partial maps which are laid over one another. A map which is laid over two others
hides how these differ exactly where it has values itself. -/
namespace Overlay

variable {Key Value : Type}

/-- The values of the new map, and those of the old one where it has none. -/
def overlay (new old : Key → Option Value) : Key → Option Value := fun key => (new key).or (old key)

/-- All the maps laid over one another, the last one on top. -/
def latest (maps : List (Key → Option Value)) : Key → Option Value :=
  maps.foldl (fun old new => overlay new old) fun _ => none

variable {new first second : Key → Option Value} {maps others : List (Key → Option Value)}

@[simp] theorem none_overlay (old : Key → Option Value) : overlay (fun _ => none) old = old := rfl

@[simp] theorem overlay_none (new : Key → Option Value) : overlay new (fun _ => none) = new := by
  funext key
  exact Option.or_none

theorem overlay_assoc (new old oldest : Key → Option Value) :
    overlay (overlay new old) oldest = overlay new (overlay old oldest) := by
  funext key
  exact Option.or_assoc

theorem update_eq_overlay [DecidableEq Key] (old : Key → Option Value) (key : Key) (value : Value) :
    Function.update old key (some value) =
      overlay (Function.update (fun _ => none) key (some value)) old := by
  funext other
  by_cases h : other = key
  · subst h
    simp [overlay]
  · simp [overlay, h]

theorem overlay_eq_overlay_iff :
    overlay new first = overlay new second ↔ ∀ key, new key = none → first key = second key := by
  rw [funext_iff]
  apply forall_congr'
  intro key
  unfold overlay
  cases new key with
  | none => simp
  | some value => simp

/-- The newest map goes on top. -/
@[simp] theorem latest_concat (maps : List (Key → Option Value)) (new : Key → Option Value) :
    latest (maps ++ [new]) = overlay new (latest maps) := by
  simp [latest]

end Overlay
