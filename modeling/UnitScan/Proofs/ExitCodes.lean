import UnitScan.Proofs.ScanOutcomes
import Mathlib.Control.Monad.Basic

/-!
# Exit codes

The exit code of a run that scans tells how far the scan has come. The codes 2 and 3 are left for
files that cannot be read, the code 1 for files that are read and then rejected, and a run that
ends with another code than 0 has written no tokens.
-/

namespace UnitScan

/-! ### Files that cannot be read -/

/-- A fold that fails has failed in one of its steps. -/
theorem exists_of_foldlM_eq_error {σ α ε : Type} {f : σ → α → Except ε σ} {l : List α} {s : σ}
    {e : ε} (h : l.foldlM f s = .error e) : ∃ s a, f s a = .error e := by
  induction l generalizing s with
  | nil => cases h
  | cons a l ih =>
      rw [List.foldlM_cons] at h
      cases hstep : f s a with
      | error e' =>
          rw [hstep] at h
          cases h
          exact ⟨s, a, hstep⟩
      | ok s' =>
          rw [hstep] at h
          exact ih h

namespace FileTree

variable (t : FileTree)

theorem lookup_ne_permissionDenied (names : List String) (name : String) :
    t.lookup names name ≠ .error .permissionDenied := by
  simp only [lookup]
  split
  · simp
  · split <;> simp

theorem enter_ne_permissionDenied (place : Place) (part : String) :
    t.enter place part ≠ .error .permissionDenied := by
  cases place with
  | file bytes => simp [enter]
  | inside names =>
      rw [enter]
      split
      · simp
      · split
        · simp
        · split
          · simp
          · exact t.lookup_ne_permissionDenied names part
  | outside =>
      rw [enter]
      split
      · simp
      · split <;> simp

/-- Every file and every directory of a tree may be read. -/
theorem read_ne_permissionDenied (path : Path) : t.read path ≠ .error .permissionDenied := by
  intro h
  have hresolve : t.resolve path.text = .error .permissionDenied := by
    unfold read at h
    split at h
    · next hfault =>
      cases h
      exact hfault
    · cases h
    · cases h
    · cases h
  unfold resolve at hresolve
  split at hresolve
  · cases hresolve
  · split at hresolve
    · cases hresolve
    · obtain ⟨place, part, hstep⟩ := exists_of_foldlM_eq_error hresolve
      exact enter_ne_permissionDenied t place part hstep

end FileTree

/-! ### Files that are rejected -/

namespace Configuration

/-- Why a scan rejects the bytes of a file: it does not know the encoding that they are in, or the
comment marker makes no policy, or the scan is strict and one of the tokens is an error. -/
inductive Rejects (c : Configuration) (bytes : List UInt8) : Prop
  | unknownEncoding (hbytes : bytes ≠ []) (hencoding : Encoding.ofName? c.encoding = none)
  | refusedPolicy {fault : Policy.Fault} (hpolicy : c.policy = .error fault)
  | strictError {source : List Char} {p : Policy} {t : Token} (hstrict : c.strict = true)
      (hdecode : decode? c.encoding bytes = some source) (hpolicy : c.policy = .ok p)
      (ht : t ∈ tokens p source) (herror : t.isError = true)

/-- The empty file is the empty text in every encoding. -/
theorem decode?_eq_none_iff {encoding : String} {bytes : List UInt8} :
    decode? encoding bytes = none ↔ bytes ≠ [] ∧ Encoding.ofName? encoding = none := by
  unfold decode?
  split <;> simp_all

/-- Bytes that are decoded and scanned are rejected by strictness alone. -/
theorem rejects_iff {c : Configuration} {bytes : List UInt8} {source : List Char} {p : Policy}
    (hdecode : decode? c.encoding bytes = some source) (hpolicy : c.policy = .ok p) :
    c.Rejects bytes ↔ c.strict = true ∧ ∃ t ∈ tokens p source, t.isError = true := by
  constructor
  · rintro (⟨hbytes, hencoding⟩ | hfault | ⟨hstrict, hdecode', hpolicy', ht, herror⟩)
    · rw [decode?_eq_none_iff.mpr ⟨hbytes, hencoding⟩] at hdecode
      cases hdecode
    · rw [hfault] at hpolicy
      cases hpolicy
    · cases hdecode.symm.trans hdecode'
      cases hpolicy.symm.trans hpolicy'
      exact ⟨hstrict, _, ht, herror⟩
  · rintro ⟨hstrict, t, ht, herror⟩
    exact .strictError hstrict hdecode hpolicy ht herror

end Configuration

/-! ### The end of a scan -/

namespace Command

/-- How a scan ends, by what becomes of its file. Only an accepted file is written as tokens. -/
inductive Ends (s : ScanOptions) (env : Environment) (disk : Disk) (o : Outcome) : Prop
  | unread {fault : FileFault}
      (hread : disk.read (s.path (s.configuration env)) = .error fault)
      (hstatus : o.status = (FailureKind.ofFileFault fault).status) (hsilent : o.stdout = "")
  | rejected {bytes : List UInt8}
      (hread : disk.read (s.path (s.configuration env)) = .ok bytes)
      (hrejects : (s.configuration env).Rejects bytes)
      (hstatus : o.status = .lexicalError) (hsilent : o.stdout = "")
  | accepted {bytes : List UInt8}
      (hread : disk.read (s.path (s.configuration env)) = .ok bytes)
      (hrejects : ¬(s.configuration env).Rejects bytes)
      (hstatus : o.status = .success)

theorem ends_scan {s : ScanOptions} {env : Environment} (disk : Disk)
    (hlimit : Text.Writable (s.configuration env).errorLimit) :
    Ends s env disk (scan s env disk) := by
  have hfinds := finds_scanFile s env disk
  generalize hvalue : (scanFile s env disk).value = found at hfinds
  cases hfinds with
  | unread hread =>
      rw [scan_eq_of_error hvalue]
      exact .unread hread rfl (Outcome.stdout_ofFailure ..)
  | undecoded hread hdecode =>
      obtain ⟨hbytes, hencoding⟩ := Configuration.decode?_eq_none_iff.mp hdecode
      rw [scan_eq_of_error hvalue]
      exact .rejected hread (.unknownEncoding hbytes hencoding) rfl (Outcome.stdout_ofFailure ..)
  | refused hread hpolicy =>
      rw [scan_eq_of_error hvalue]
      exact .rejected hread (.refusedPolicy hpolicy) rfl (Outcome.stdout_ofFailure ..)
  | scanned h =>
      have hrejects := Configuration.rejects_iff h.decoded h.policy
      cases hrejection : Scanned.rejection? _ with
      | none =>
          rw [scan_eq_of_ok hvalue hrejection,
            Scanned.accepted_eq_success (collected_found hlimit)]
          have hfaultless := Scanned.rejection?_eq_none_iff.mp hrejection
          exact .accepted h.read (mt hrejects.mp hfaultless) rfl
      | some rejection =>
          obtain ⟨d, rfl⟩ := exists_of_rejection?_found hrejection
          rw [scan_eq_of_rejection hvalue hrejection]
          have hfaulty := mt Scanned.rejection?_eq_none_iff.mpr (by rw [hrejection]; simp)
          exact .rejected h.read (hrejects.mpr (Classical.not_not.mp hfaulty)) rfl
            (Outcome.stdout_ofFailure ..)

/-- The exit code of a run that scans a file is 2 if the file is missing, 3 if it cannot be read
for another reason, 1 if it is read and rejected, and 0 if it is read and not rejected. A run that
fails writes nothing to the standard output stream. -/
theorem code_run (t : FileTree) (env : Environment) {args : List String} {s : ScanOptions}
    (h : Request.ofArgs t.disk.isDirectory args = .ok (.scan s)) :
    ((run args env t.disk).status.code = 2 ↔
        t.read (s.path (s.configuration env)) = .error .notFound) ∧
      ((run args env t.disk).status.code = 3 ↔
        ∃ fault ∈ [FileFault.isDirectory, .notDirectory, .nameTooLong],
          t.read (s.path (s.configuration env)) = .error fault) ∧
      ((run args env t.disk).status.code = 1 ↔
        ∃ bytes, t.read (s.path (s.configuration env)) = .ok bytes ∧
          (s.configuration env).Rejects bytes) ∧
      ((run args env t.disk).status.code = 0 ↔
        ∃ bytes, t.read (s.path (s.configuration env)) = .ok bytes ∧
          ¬(s.configuration env).Rejects bytes) ∧
      ((run args env t.disk).status.code ≠ 0 → (run args env t.disk).stdout = "") := by
  rw [run_eq_scan h]
  cases ends_scan t.disk (ScanOptions.isErrorLimit h env).writable with
  | @unread fault hread hstatus hsilent =>
      have hread : t.read (s.path (s.configuration env)) = .error fault := hread
      have hallowed : fault ≠ .permissionDenied := by
        rintro rfl
        exact t.read_ne_permissionDenied _ hread
      rw [hstatus, hsilent, hread]
      cases fault with
      | permissionDenied => exact absurd rfl hallowed
      | notFound | notDirectory | isDirectory | nameTooLong =>
          simp [FailureKind.ofFileFault, FailureKind.status, ExitStatus.code]
  | @rejected bytes hread hrejects hstatus hsilent =>
      have hread : t.read (s.path (s.configuration env)) = .ok bytes := hread
      rw [hstatus, hsilent, hread]
      simp [ExitStatus.code, hrejects]
  | @accepted bytes hread hrejects hstatus =>
      have hread : t.read (s.path (s.configuration env)) = .ok bytes := hread
      rw [hstatus, hread]
      simp [ExitStatus.code, hrejects]

/-- A working directory with one file, in which a stray character stands between two names. -/
def strayTree : FileTree := ⟨[("units.dat", "a@b".toUTF8.toList)], []⟩

/-- A strict scan of a file with a stray character fails, and it writes no token. -/
theorem code_run_strict :
    (run ["--strict", "units.dat"] [] strayTree.disk).status.code = 1 ∧
      (run ["--strict", "units.dat"] [] strayTree.disk).stdout = "" := by
  let s : ScanOptions := { strict := true, input := some "units.dat" }
  have hrequest :
      Request.ofArgs strayTree.disk.isDirectory ["--strict", "units.dat"] = .ok (.scan s) := by
    decide +kernel
  have hread : strayTree.read (s.path (s.configuration [])) = .ok "a@b".toUTF8.toList := by
    decide +kernel
  have hdecode : Configuration.decode? (s.configuration []).encoding "a@b".toUTF8.toList =
      some "a@b".toList := by
    decide +kernel
  have hpolicy : (s.configuration []).policy = .ok Policy.standard :=
    Policy.Settings.accept_eq_ok_iff.mpr (by decide +kernel)
  have hstray : ∃ t ∈ tokens Policy.standard "a@b".toList, t.isError = true := by
    decide +kernel
  have hrejects := (Configuration.rejects_iff hdecode hpolicy).mpr ⟨by decide, hstray⟩
  obtain ⟨-, -, hone, -, hsilent⟩ := code_run strayTree [] hrequest
  have hcode := hone.mpr ⟨_, hread, hrejects⟩
  exact ⟨hcode, hsilent (by rw [hcode]; decide)⟩

end Command

end UnitScan
