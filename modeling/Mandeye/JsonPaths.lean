import Mathlib.Data.List.Basic
import Mandeye.LibCamera.Json

/-! Brackets on a JSON value which may be changed. They select a member of an object,
and make the member, or the object in place of null, if it is not there. -/
namespace Mandeye.Json

/-- The members with one of them set. -/
def setMember (key : String) (value : Json) : List (String × Json) → List (String × Json)
  | [] => [(key, value)]
  | (other, old) :: rest =>
      if key = other then (key, value) :: rest else (other, old) :: setMember key value rest

/-- The members which brackets can select from. -/
def membersOrNew : Json → Except String (List (String × Json))
  | .null => .ok []
  | .object members => .ok members
  | json => json.typeError "305" "cannot use operator[] with a string argument with "

/-- Change what the brackets select. -/
def update (f : Json → Json) : List String → Json → Except String Json
  | [], json => .ok (f json)
  | key :: path, json =>
      match json.membersOrNew with
      | .error what => .error what
      | .ok members =>
          match update f path ((members.lookup key).getD .null) with
          | .error what => .error what
          | .ok inner => .ok (.object (setMember key inner members))

/-- What the brackets select. -/
def select : List String → Json → Json
  | [], json => json
  | key :: path, json => select path ((json.member key).getD .null)

/-- The brackets can be used all along the path. -/
def selectable : List String → Json → Bool
  | [], _ => true
  | key :: path, json => json.membersOrNew.isOk && selectable path ((json.member key).getD .null)

/-- Neither path leads through the place of the other one. -/
def Diverge : List String → List String → Prop
  | first :: path, other :: rest => first ≠ other ∨ Diverge path rest
  | [], _ => False
  | _ :: _, [] => False

instance decidableDiverge : (path other : List String) → Decidable (Diverge path other)
  | _ :: path, _ :: rest =>
      have := decidableDiverge path rest
      inferInstanceAs (Decidable (_ ∨ _))
  | [], _ => isFalse id
  | _ :: _, [] => isFalse id

variable {f : Json → Json} {key other : String} {value json json' : Json}
  {members : List (String × Json)} {path : List String}

@[simp] theorem lookup_setMember_same :
    (setMember key value members).lookup key = some value := by
  induction members with
  | nil => simp [setMember]
  | cons first rest ih =>
      obtain ⟨k, old⟩ := first
      by_cases h : key = k
      · simp [setMember, h]
      · rw [setMember, if_neg h, List.lookup_cons, beq_false_of_ne h, ih]

theorem lookup_setMember_of_ne (h : other ≠ key) :
    (setMember key value members).lookup other = members.lookup other := by
  induction members with
  | nil => rw [setMember, List.lookup_cons, beq_false_of_ne h]
  | cons first rest ih =>
      obtain ⟨k, old⟩ := first
      by_cases hKey : key = k
      · rw [setMember, if_pos hKey, List.lookup_cons, List.lookup_cons, ← hKey,
          beq_false_of_ne h]
      · rw [setMember, if_neg hKey, List.lookup_cons, List.lookup_cons, ih]

theorem member_of_membersOrNew (h : json.membersOrNew = .ok members) (key : String) :
    json.member key = members.lookup key := by
  cases json with
  | null =>
      cases h
      rfl
  | object all =>
      cases h
      rfl
  | _ => cases h

/-- An update below a key is one of the member there. -/
theorem update_cons_eq_ok : update f (key :: path) json = .ok json' ↔
    ∃ members inner, json.membersOrNew = .ok members ∧
      update f path ((json.member key).getD .null) = .ok inner ∧
      json' = .object (setMember key inner members) := by
  rw [update]
  cases hMembers : json.membersOrNew with
  | error what => simp
  | ok members =>
      rw [member_of_membersOrNew hMembers]
      cases hInner : update f path ((members.lookup key).getD .null) with
      | error what => simp [hInner]
      | ok inner => simp [hInner, eq_comm]

/-- An update succeeds exactly where its path can be followed. -/
theorem isOk_update : (update f path json).isOk = json.selectable path := by
  induction path generalizing json with
  | nil => rfl
  | cons key path ih =>
      rw [selectable, ← ih, update]
      cases hMembers : json.membersOrNew with
      | error what => rfl
      | ok members =>
          rw [member_of_membersOrNew hMembers]
          cases hInner : update f path ((members.lookup key).getD .null) with
          | error what => simp [hInner, Except.isOk, Except.toBool]
          | ok inner => simp [hInner, Except.isOk, Except.toBool]

/-- The update is made where the path leads. -/
theorem select_update_same (h : update f path json = .ok json') :
    json'.select path = f (json.select path) := by
  induction path generalizing json json' with
  | nil =>
      cases h
      rfl
  | cons key path ih =>
      obtain ⟨members, inner, -, hInner, rfl⟩ := update_cons_eq_ok.mp h
      simp only [select, member, lookup_setMember_same, Option.getD_some]
      exact ih hInner

/-- Nothing changes off the path. -/
theorem select_update_of_diverge {away : List String} (h : update f path json = .ok json')
    (hAway : Diverge away path) : json'.select away = json.select away := by
  induction path generalizing json json' away with
  | nil => cases away <;> cases hAway
  | cons key path ih =>
      cases away with
      | nil => cases hAway
      | cons first away =>
          obtain ⟨members, inner, hMembers, hInner, rfl⟩ := update_cons_eq_ok.mp h
          rw [select, select, member_of_membersOrNew hMembers]
          by_cases hKey : first = key
          · subst hKey
            have hLater := ih hInner (hAway.resolve_left (fun hNe => hNe rfl))
            rw [member_of_membersOrNew hMembers] at hLater
            simpa only [member, lookup_setMember_same, Option.getD_some] using hLater
          · simp only [member, lookup_setMember_of_ne hKey]

theorem selectable_update_same (h : update f path json = .ok json') :
    json'.selectable path = true := by
  induction path generalizing json json' with
  | nil => rfl
  | cons key path ih =>
      obtain ⟨members, inner, -, hInner, rfl⟩ := update_cons_eq_ok.mp h
      simp only [selectable, membersOrNew, member, lookup_setMember_same, Option.getD_some]
      exact ih hInner

theorem selectable_update_of_diverge {away : List String} (h : update f path json = .ok json')
    (hAway : Diverge away path) : json'.selectable away = json.selectable away := by
  induction path generalizing json json' away with
  | nil => cases away <;> cases hAway
  | cons key path ih =>
      cases away with
      | nil => cases hAway
      | cons first away =>
          obtain ⟨members, inner, hMembers, hInner, rfl⟩ := update_cons_eq_ok.mp h
          rw [selectable, selectable, hMembers, member_of_membersOrNew hMembers]
          by_cases hKey : first = key
          · subst hKey
            have hLater := ih hInner (hAway.resolve_left (fun hNe => hNe rfl))
            rw [member_of_membersOrNew hMembers] at hLater
            simp only [membersOrNew, member, lookup_setMember_same, Option.getD_some, hLater]
            rfl
          · simp only [membersOrNew, member, lookup_setMember_of_ne hKey]
            rfl

theorem selectable_of_update_eq_ok (h : update f path json = .ok json') :
    json.selectable path = true := by
  rw [← isOk_update (f := f), h]
  rfl

theorem exists_update_eq_ok (f : Json → Json) (h : json.selectable path = true) :
    ∃ json', update f path json = .ok json' := by
  rw [← isOk_update (f := f)] at h
  cases hUpdate : update f path json with
  | ok json' => exact ⟨json', rfl⟩
  | error what =>
      rw [hUpdate] at h
      cases h

end Mandeye.Json
