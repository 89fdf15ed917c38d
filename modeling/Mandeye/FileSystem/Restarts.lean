import Mathlib.Tactic.Ring
import Mandeye.FileSystem.Client
import Mandeye.Interleaving.Interruption
import Mandeye.Signed

/-! Starts of the process on one repository. Each start may be killed between
any two operations; the next one finds whatever is left. -/
namespace Mandeye.FileSystemClient

open Interleaving (Program)

section Repositories

variable (repository : String)

/-- One of the two directories of session `n` exists. -/
def SessionExists (directories : Finset String) (n : Nat) : Prop :=
  stopScansPath repository n ∈ directories ∨ continousScanningPath repository n ∈ directories

/-- The session number which a start finds in a manifest. -/
def storedNumber (manifest : Option String) : Nat :=
  match manifest with
  | none => 0
  | some text => (Decimal.readUInt32 text).toNat

/-- Every session which has left a directory has a smaller number than the
manifest; without a manifest there is none. -/
def Numbered (manifest : Option String) (directories : Finset String) : Prop :=
  ∀ n, SessionExists repository directories n →
    manifest ≠ none ∧ n < storedNumber manifest

/-- The manifest has been cut and its number is not written yet, although there
are directories of earlier sessions. -/
def Truncated (r : Repository) : Prop :=
  r.files.lookup (manifestPath repository) = some "" ∧
    ∃ n, SessionExists repository r.directories n

def Orderly (r : Repository) : Prop :=
  Numbered repository (r.files.lookup (manifestPath repository)) r.directories

/-- The system lets the process do everything. -/
def Usable (r : Repository) : Prop :=
  r.writable = true ∧ r.opens = true ∧ r.creates = true

/-- What a start killed at any moment leaves. -/
def Remains (r : Repository) : Prop :=
  Usable r ∧ (Orderly repository r ∨ Truncated repository r)

/-- No directory which existed at the beginning of the start is selected. -/
def SelectsNew (existing : Finset String) (operation : FileOperation) (_ : Repository) : Prop :=
  ∀ path, operation = .createDirectories path → path ∉ existing

/-- The repository after the start has been killed after `k` operations. A
start with fewer operations ends by itself. -/
def killed (r : Repository) (k : Nat) : Repository :=
  (startUp repository).cutOff Repository.handle k r

/-- What a start selects: the paths of the directories it creates. -/
def selected (r : Repository) (k : Nat) : List String :=
  ((startUp repository).performed Repository.handle k r).filterMap fun entry =>
    match entry.2 with
    | .createDirectories path => some path
    | _ => none

end Repositories

section Start

variable {repository : String} {existing directories : Finset String} {manifest : Option String}
  {r : Repository}

/-- The part of the repository which decides about session numbers. -/
structure Shows (repository : String) (manifest : Option String) (directories : Finset String)
    (r : Repository) : Prop where
  usable : Usable r
  manifest : r.files.lookup (manifestPath repository) = manifest
  directories : r.directories = directories

theorem Shows.remains (h : Shows repository manifest directories r)
    (hNumbered : Numbered repository manifest directories) : Remains repository r := by
  refine ⟨h.usable, .inl ?_⟩
  rw [Orderly, h.manifest, h.directories]
  exact hNumbered

/-- Just after the cut the numbers are still in order if there are no sessions. -/
theorem Shows.remains_cut (h : Shows repository (some "") directories r) :
    Remains repository r := by
  refine ⟨h.usable, ?_⟩
  by_cases hSession : ∃ n, SessionExists repository directories n
  · exact .inr ⟨h.manifest, by rwa [h.directories]⟩
  · refine .inl ?_
    rw [Orderly, h.directories]
    exact fun n hn => absurd ⟨n, hn⟩ hSession

theorem Shows.openVersion (h : Shows repository manifest directories r) :
    ∃ r', Repository.handle (.openForWriting (versionPath repository)) r = (true, r') ∧
      Shows repository manifest directories r' := by
  refine ⟨{ r with files := r.files.insert (versionPath repository) "" }, ?_, h.usable, ?_,
    h.directories⟩
  · simp only [Repository.handle, h.usable.2.1, if_true]
  · rw [AList.lookup_insert_ne (versionPath_ne_manifestPath repository).symm, h.manifest]

theorem Shows.writeVersion (h : Shows repository manifest directories r) (text : String) :
    ∃ r', Repository.handle (.write (versionPath repository) text) r = ((), r') ∧
      Shows repository manifest directories r' := by
  refine ⟨_, rfl, h.usable, ?_, h.directories⟩
  rw [AList.lookup_insert_ne (versionPath_ne_manifestPath repository).symm, h.manifest]

theorem Shows.openManifest (h : Shows repository manifest directories r) :
    ∃ r', Repository.handle (.openForWriting (manifestPath repository)) r = (true, r') ∧
      Shows repository (some "") directories r' := by
  refine ⟨{ r with files := r.files.insert (manifestPath repository) "" }, ?_, h.usable,
    AList.lookup_insert _, h.directories⟩
  simp only [Repository.handle, h.usable.2.1, if_true]

theorem Shows.writeManifest (h : Shows repository (some "") directories r) (text : String) :
    ∃ r', Repository.handle (.write (manifestPath repository) text) r = ((), r') ∧
      Shows repository (some text) directories r' := by
  refine ⟨_, rfl, h.usable, ?_, h.directories⟩
  simp [h.manifest]

theorem Shows.createDirectories (h : Shows repository manifest directories r) (path : String) :
    ∃ r', Repository.handle (.createDirectories path) r = (true, r') ∧
      Shows repository manifest (insert path directories) r' := by
  refine ⟨{ r with directories := insert path r.directories }, ?_, h.usable, h.manifest, ?_⟩
  · simp only [Repository.handle, h.usable.2.2, if_true]
  · rw [h.directories]

theorem storedNumber_line (n : Nat) (h : n < 2 ^ 31) :
    storedNumber (some (toString (n : Int) ++ "\n")) = n := by
  rw [storedNumber, Decimal.readUInt32_line n (by omega), UInt32.toNat_ofNat']
  omega

/-- Reading the number: nothing happens to the manifest, except that a missing
one is written. -/
theorem survives_getIdFromManifest {client : FileSystemClient} {Q : Int32 → Repository → Prop}
    (hRepository : client.repository = repository)
    (h : Shows repository manifest directories r)
    (hNumbered : Numbered repository manifest directories)
    (hBound : storedNumber manifest < 2 ^ 31)
    (hQ : ∀ (id : Int32) text r', Shows repository (some text) directories r' →
      Numbered repository (some text) directories →
      storedNumber (some text) = storedNumber manifest →
      id.toInt = (storedNumber manifest : Int) → Q id r') :
    (getIdFromManifest client).Survives Repository.handle (Remains repository)
      (SelectsNew existing) Q r := by
  subst hRepository
  obtain ⟨r₁, hOpen, h₁⟩ := h.openVersion
  refine .statement (h.remains hNumbered) nofun hOpen ?_
  obtain ⟨r₂, hWrite, h₂⟩ := h₁.writeVersion "Version 0.6-dev\n"
  refine .bind (.statement (h₁.remains hNumbered) nofun hWrite ⟨h₂.remains hNumbered, ?_⟩)
  cases manifest with
  | some text =>
      have hExists : Repository.handle (.openForReading (manifestPath client.repository)) r₂ =
          (true, r₂) := by simp [Repository.handle, h₂.manifest]
      refine .statement (h₂.remains hNumbered) nofun hExists ?_
      refine .statement (h₂.remains hNumbered) nofun rfl ⟨h₂.remains hNumbered, ?_⟩
      refine hQ _ text r₂ h₂ hNumbered rfl ?_
      rw [h₂.manifest]
      exact Signed.toInt_toInt32_of_lt hBound
  | none =>
      have hMissing : Repository.handle (.openForReading (manifestPath client.repository)) r₂ =
          (false, r₂) := by simp [Repository.handle, h₂.manifest]
      refine .statement (h₂.remains hNumbered) nofun hMissing ?_
      obtain ⟨r₃, hCreate, h₃⟩ := h₂.openManifest
      refine .statement (h₂.remains hNumbered) nofun hCreate ?_
      obtain ⟨r₄, hZero, h₄⟩ := h₃.writeManifest "0\n"
      have hNone : Numbered client.repository (some "0\n") directories :=
        fun n hn => absurd rfl (hNumbered n hn).1
      refine .statement h₃.remains_cut nofun hZero ⟨h₄.remains hNone, ?_⟩
      exact hQ 0 "0\n" r₄ h₄ hNone (by decide) rfl

theorem Numbered.mono {manifest' : Option String}
    (hNumbered : Numbered repository manifest directories) (hSome : manifest' ≠ none)
    (hLe : storedNumber manifest ≤ storedNumber manifest') :
    Numbered repository manifest' directories :=
  fun n hn => ⟨hSome, (hNumbered n hn).2.trans_le hLe⟩

theorem toInt_add_one {id : Int32} {n : Nat} (hId : id.toInt = n) (hn : n + 1 < 2 ^ 31) :
    (id + 1).toInt = ((n + 1 : Nat) : Int) := by
  have hOne : (1 : Int32).toInt = 1 := by decide
  rw [Int32.toInt_add, hId, hOne, Int.bmod_def]
  push_cast
  split_ifs <;> omega

/-- Storing the next number. The manifest shows no number in between. -/
theorem survives_getNextIdFromManifest {client : FileSystemClient}
    {Q : Int32 × FileSystemClient → Repository → Prop} {n : Nat}
    (hRepository : client.repository = repository)
    (h : Shows repository manifest directories r)
    (hNumbered : Numbered repository manifest directories)
    (hStored : storedNumber manifest = n) (hn : n + 1 < 2 ^ 31)
    (hQ : ∀ (id : Int32) client' text r', client'.repository = repository →
      Shows repository (some text) directories r' →
      storedNumber (some text) = n + 1 → id.toInt = (n : Int) →
      Q (id + 1, client') r') :
    (getNextIdFromManifest client).Survives Repository.handle (Remains repository)
      (SelectsNew existing) Q r := by
  subst hStored
  refine .bind (survives_getIdFromManifest hRepository h hNumbered (by omega) ?_)
  intro id text r₁ h₁ hNumbered₁ hSame hId
  subst hRepository
  have hNext := toInt_add_one hId hn
  obtain ⟨r₂, hOpen, h₂⟩ := h₁.openManifest
  refine .statement (h₁.remains hNumbered₁) nofun hOpen ?_
  obtain ⟨r₃, hWrite, h₃⟩ := h₂.writeManifest (toString (id + 1).toInt ++ "\n")
  have hLine : storedNumber (some (toString (id + 1).toInt ++ "\n")) =
      storedNumber manifest + 1 := by
    rw [hNext]
    exact storedNumber_line _ hn
  have hNumbered₃ : Numbered client.repository
      (some (toString (id + 1).toInt ++ "\n")) directories :=
    hNumbered.mono (by simp) (by omega)
  refine .bind (.statement h₂.remains_cut nofun hWrite ⟨h₃.remains hNumbered₃, ?_⟩)
  exact ⟨h₃.remains hNumbered₃, hQ _ _ _ r₃ rfl h₃ hLine hId⟩

/-- A directory of session `n` may be added once the manifest stores more. -/
theorem Numbered.insert_stopScans {n : Nat} (hNumbered : Numbered repository manifest directories)
    (hSome : manifest ≠ none) (hLt : n < storedNumber manifest) :
    Numbered repository manifest (insert (stopScansPath repository n) directories) := by
  intro m hm
  rcases hm with hm | hm
  · rcases Finset.mem_insert.mp hm with hEq | hm
    · obtain rfl : m = n := by exact_mod_cast stopScansPath_injective repository hEq
      exact ⟨hSome, hLt⟩
    · exact hNumbered m (.inl hm)
  · rcases Finset.mem_insert.mp hm with hEq | hm
    · exact absurd hEq.symm (stopScansPath_ne_continousScanningPath repository n m)
    · exact hNumbered m (.inr hm)

theorem Numbered.insert_continousScanning {n : Nat}
    (hNumbered : Numbered repository manifest directories) (hSome : manifest ≠ none)
    (hLt : n < storedNumber manifest) :
    Numbered repository manifest (insert (continousScanningPath repository n) directories) := by
  intro m hm
  rcases hm with hm | hm
  · rcases Finset.mem_insert.mp hm with hEq | hm
    · exact absurd hEq (stopScansPath_ne_continousScanningPath repository m n)
    · exact hNumbered m (.inl hm)
  · rcases Finset.mem_insert.mp hm with hEq | hm
    · obtain rfl : m = n := by exact_mod_cast continousScanningPath_injective repository hEq
      exact ⟨hSome, hLt⟩
    · exact hNumbered m (.inr hm)

/-- A whole start, whenever it is killed. -/
theorem survives_startUp {n : Nat} (h : Shows repository manifest directories r)
    (hNumbered : Numbered repository manifest directories)
    (hStored : storedNumber manifest = n) (hn : n + 1 < 2 ^ 31) :
    (startUp repository).Survives Repository.handle (Remains repository)
      (SelectsNew directories) (fun _ => Remains repository) r := by
  have hFree : ¬SessionExists repository directories n := by
    intro hSession
    have hLt := (hNumbered n hSession).2
    omega
  refine .bind (.bind (survives_getIdFromManifest rfl h hNumbered (by omega) ?_))
  intro id text r₁ h₁ hNumbered₁ hSame hId
  refine ⟨h₁.remains hNumbered₁, ?_⟩
  have hWritable : ∀ r, Usable r → Repository.handle .access r = (true, r) := by
    intro r hr
    rw [Repository.handle, hr.1]
  refine .bind (.statement (h₁.remains hNumbered₁) nofun (hWritable r₁ h₁.usable) ?_)
  refine .bind (survives_getNextIdFromManifest rfl h₁ hNumbered₁ (hSame.trans hStored) hn ?_)
  intro id₂ client₂ text₂ r₂ hRepository₂ h₂ hStored₂ hId₂
  subst hRepository₂
  have hSome : some text₂ ≠ none := by simp
  have hLt : n < storedNumber (some text₂) := by omega
  have hNumbered₂ : Numbered client₂.repository (some text₂) directories :=
    hNumbered.mono hSome (by omega)
  obtain ⟨r₃, hStop, h₃⟩ := h₂.createDirectories (stopScansPath client₂.repository n)
  have hNumbered₃ := hNumbered₂.insert_stopScans hSome hLt
  have hNumber : (id₂ + 1 - 1).toInt = n := by rw [Int32.add_sub_cancel, hId₂]
  dsimp only
  rw [hNumber]
  refine .bind (.statement (h₂.remains hNumbered₂) ?_ hStop ⟨h₃.remains hNumbered₃, ?_⟩)
  · rintro path ⟨⟩
    exact fun hMem => hFree (.inl hMem)
  refine ⟨h₃.remains hNumbered₃, .bind (.statement (h₃.remains hNumbered₃) nofun
    (hWritable r₃ h₃.usable) ?_)⟩
  obtain ⟨r₄, hContinous, h₄⟩ := h₃.createDirectories (continousScanningPath client₂.repository n)
  have hNumbered₄ := hNumbered₃.insert_continousScanning hSome hLt
  have hRemains := h₄.remains hNumbered₄
  rw [hNumber]
  refine .bind (.statement (h₃.remains hNumbered₃) ?_ hContinous ⟨hRemains, ?_⟩)
  · rintro path ⟨⟩
    exact fun hMem => hFree (.inr hMem)
  · exact ⟨hRemains, hRemains, hRemains⟩

end Start

/-- One start from an orderly repository selects new directories only, and a
kill leaves an orderly repository or a truncated manifest. -/
theorem startUp_orderly {repository : String} {r : Repository} (hUsable : Usable r)
    (hOrderly : Orderly repository r)
    (hBound : storedNumber (r.files.lookup (manifestPath repository)) < 2 ^ 31 - 1) (k : Nat) :
    Remains repository (killed repository r k) ∧
      ∀ path ∈ selected repository r k, path ∉ r.directories := by
  have hSurvives := survives_startUp ⟨hUsable, rfl, rfl⟩ hOrderly rfl (by omega)
  refine ⟨hSurvives.cutOff k, ?_⟩
  intro path hPath
  obtain ⟨entry, hEntry, hSelects⟩ := List.mem_filterMap.mp hPath
  have hNew := hSurvives.performed k entry hEntry
  obtain ⟨before, operation⟩ := entry
  cases operation with
  | createDirectories other =>
      cases hSelects
      exact hNew path rfl
  | _ => cases hSelects

/-- A property of each start of a sequence, in the repository which it finds
and for the operation after which it is killed. -/
def EachStart (repository : String) (P : Repository → Nat → Prop) : Repository → List Nat → Prop
  | _, [] => True
  | r, k :: kills => P r k ∧ EachStart repository P (killed repository r k) kills

/-- As long as no start is killed while it has cut the manifest of earlier
sessions, and the number does not run out, no start ever selects a directory
which was already there. -/
theorem starts_select_new {repository : String} {r : Repository} (hUsable : Usable r)
    (hOrderly : Orderly repository r) (kills : List Nat)
    (hKills : EachStart repository (fun r k =>
      storedNumber (r.files.lookup (manifestPath repository)) < 2 ^ 31 - 1 ∧
        ¬Truncated repository (killed repository r k)) r kills) :
    EachStart repository (fun r k => ∀ path ∈ selected repository r k, path ∉ r.directories)
      r kills := by
  induction kills generalizing r with
  | nil => trivial
  | cons k kills ih =>
      obtain ⟨⟨hBound, hCut⟩, hLater⟩ := hKills
      obtain ⟨⟨hUsable', hRemains⟩, hNew⟩ := startUp_orderly hUsable hOrderly hBound k
      exact ⟨hNew, ih hUsable' (hRemains.resolve_right hCut) hLater⟩

/-- A stick with the directories of one session, and the next number. -/
def usedStick : Repository where
  files := (∅ : AList fun _ : String => String).insert "/media/usb/mandala_manifest.txt" "1\n"
  directories := {"/media/usb/stopScans_0000", "/media/usb/continousScanning_0000"}
  writable := true
  opens := true
  creates := true

theorem usedStick_orderly : Usable usedStick ∧ Orderly "/media/usb/" usedStick := by
  refine ⟨⟨rfl, rfl, rfl⟩, fun n hn => ⟨by decide, ?_⟩⟩
  have hStop : stopScansPath "/media/usb/" (0 : Nat) = "/media/usb/stopScans_0000" := by decide
  have hContinous : continousScanningPath "/media/usb/" (0 : Nat) =
      "/media/usb/continousScanning_0000" := by decide
  have hNumber : storedNumber (usedStick.files.lookup (manifestPath "/media/usb/")) = 1 := by decide
  rw [hNumber]
  simp only [SessionExists, usedStick, Finset.mem_insert, Finset.mem_singleton, ← hStop,
    ← hContinous] at hn
  rcases hn with (hn | hn) | (hn | hn)
  · have := stopScansPath_injective _ hn
    omega
  · exact absurd hn (stopScansPath_ne_continousScanningPath _ _ _)
  · exact absurd hn.symm (stopScansPath_ne_continousScanningPath _ _ _)
  · have := continousScanningPath_injective _ hn
    omega

/-- A complete start between two which are killed at harmless moments. -/
theorem usedStick_starts_select_new :
    EachStart "/media/usb/" (fun r k => ∀ path ∈ selected "/media/usb/" r k, path ∉ r.directories)
      usedStick [4, 16, 12] :=
  starts_select_new usedStick_orderly.1 usedStick_orderly.2 [4, 16, 12]
    ⟨⟨by decide, fun h => absurd h.1 (by decide)⟩, ⟨by decide, fun h => absurd h.1 (by decide)⟩,
      ⟨by decide, fun h => absurd h.1 (by decide)⟩, trivial⟩

/-- The power goes off when the manifest has just been cut; the next start
records into the directories of the first session. -/
theorem usedStick_overwritten :
    (Usable usedStick ∧ Orderly "/media/usb/" usedStick ∧
      storedNumber (usedStick.files.lookup (manifestPath "/media/usb/")) < 2 ^ 31 - 1) ∧
    ¬EachStart "/media/usb/"
      (fun r k => ∀ path ∈ selected "/media/usb/" r k, path ∉ r.directories) usedStick [10, 16] :=
  ⟨⟨usedStick_orderly.1, usedStick_orderly.2, by decide⟩, fun h =>
    absurd (h.2.1 "/media/usb/stopScans_0000" (by decide)) (by decide)⟩

end Mandeye.FileSystemClient
