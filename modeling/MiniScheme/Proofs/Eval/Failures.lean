import MiniScheme.Eval.Basic
import MiniScheme.Proofs.Reader.Syntax

/-!
# How evaluation may fail

Evaluation meets failures that its design provides for: errors that blame
the program, and limits of the machine.  `Failure.IsOrdinary` says which
these are.  Two things are left out.

* That something is no expression at all.  A rule of evaluation says so of
  procedures, which programs given as text do not evaluate.
* That a path is too long, where the file system has no longest path.

Each of the functions that evaluation calls on fails in an ordinary way
only, and this module says so for one after the other.

## Main results

* `FileSystem.isOrdinary_of_resolve` — searching for a file.
* `Reader.isOrdinary_of_run` — reading a text.
* `Template.isOrdinary_of_instantiate` — making a procedure.
* `Error.eq_tooManyDigits_of_message`, `Error.fault_cases_of_messageWithin` —
  wording an error.
-/

namespace MiniScheme

/-- Some path is too long to be followed. -/
def FileSystem.HasLongestPath (files : FileSystem) : Prop :=
  ∃ path, files.read path = .error .nameTooLong

/-- The failures that evaluation has by design. -/
def Failure.IsOrdinary (files : FileSystem) : Failure → Prop
  | .error (.badForm .unrecognized _) => False
  | .error (.cannotLoad _ .nameTooLong) => files.HasLongestPath
  | .error _ => True
  | .fault .longFileName => files.HasLongestPath
  | .fault .tooDeep | .fault .tooManyDigits | .fault .badFileName | .fault .notUtf8 => True
  | .fault .limitTooLarge | .fault (.notOneCharacter _) => False

theorem Error.IsAboutArguments.isOrdinary {e : Error} (h : e.IsAboutArguments)
    (files : FileSystem) : Failure.IsOrdinary files (.error e) := by
  cases e with
  | arity | type | divisionByZero => trivial
  | parse | badForm | unbound | cannotLoad => cases h

/-! ## Texts of values and values of texts -/

theorem Value.eq_tooManyDigits_of_render {form : Value → List Char} {v : Value} {f : Fault}
    (h : v.render form = .error f) : f = .tooManyDigits := by
  unfold Value.render at h
  split at h <;> cases h
  rfl

theorem Value.isOrdinary_of_render {form : Value → List Char} {v : Value} {f : Fault}
    (h : v.render form = .error f) (files : FileSystem) :
    Failure.IsOrdinary files (.fault f) := by
  obtain rfl := eq_tooManyDigits_of_render h
  trivial

/-- Rendering a message fails only for a number that is too long. -/
theorem Error.eq_tooManyDigits_of_message {e : Error} {f : Fault} (h : e.message = .error f) :
    f = .tooManyDigits := by
  unfold message at h
  split at h <;> cases h
  rfl

/-! ## Texts within a limit -/

/-- A limit that decides only whether something is given up adds one way to
fail. -/
theorem Fault.cases_of_limited {α : Type} {limited full : Except Fault α} {f : Fault}
    (hSame : limited ≠ .error .tooDeep → limited = full)
    (hFull : ∀ {f}, full = .error f → f = .tooManyDigits) (h : limited = .error f) :
    f = .tooDeep ∨ f = .tooManyDigits := by
  by_cases hDeep : limited = .error .tooDeep
  · exact .inl (Except.error.inj (h.symm.trans hDeep))
  · exact .inr (hFull ((hSame hDeep).symm.trans h))

theorem Value.fault_cases_of_writtenWithin {depth : Nat} {v : Value} {f : Fault}
    (h : v.writtenWithin depth = .error f) : f = .tooDeep ∨ f = .tooManyDigits :=
  Fault.cases_of_limited writtenWithin_eq_of_ne eq_tooManyDigits_of_render h

theorem Error.fault_cases_of_messageWithin {depth : Nat} {e : Error} {f : Fault}
    (h : e.messageWithin depth = .error f) : f = .tooDeep ∨ f = .tooManyDigits :=
  Fault.cases_of_limited messageWithin_eq_of_ne eq_tooManyDigits_of_message h

theorem Value.isOrdinary_of_writtenWithin {depth : Nat} {v : Value} {f : Fault}
    (h : v.writtenWithin depth = .error f) (files : FileSystem) :
    Failure.IsOrdinary files (.fault f) := by
  rcases fault_cases_of_writtenWithin h with rfl | rfl <;> trivial

theorem Error.isOrdinary_of_messageWithin {depth : Nat} {e : Error} {f : Fault}
    (h : e.messageWithin depth = .error f) (files : FileSystem) :
    Failure.IsOrdinary files (.fault f) := by
  rcases fault_cases_of_messageWithin h with rfl | rfl <;> trivial

theorem Reader.isOrdinary_of_run {α : Type} {read : List Char → Except Stop α} {text : String}
    {failure : Failure} (h : run read text = .error failure) (files : FileSystem) :
    failure.IsOrdinary files := by
  rcases run_eq_error h with ⟨e, rfl⟩ | rfl <;> trivial

/-! ## Files -/

namespace FileSystem

variable {files : FileSystem} {f : Fault}

theorem isOrdinary_of_isFile {path : Path} (h : files.isFile path = .error f) :
    Failure.IsOrdinary files (.fault f) := by
  unfold isFile at h
  split at h
  · cases h
  · split at h
    · cases h
    · next hRead =>
        cases h
        exact ⟨path, hRead⟩
    · cases h

theorem isOrdinary_of_firstFile? {paths : List Path} (h : files.firstFile? paths = .error f) :
    Failure.IsOrdinary files (.fault f) := by
  induction paths with
  | nil => cases h
  | cons path rest ih =>
      rw [firstFile?] at h
      cases hFile : files.isFile path with
      | error fault =>
          rw [hFile] at h
          cases h
          exact isOrdinary_of_isFile hFile
      | ok found =>
          rw [hFile] at h
          cases found with
          | true => cases h
          | false => exact ih h

/-- A search fails only at a path that is too long. -/
theorem isOrdinary_of_resolve {roots : List Path} {name : String}
    (h : files.resolve roots name = .error f) : Failure.IsOrdinary files (.fault f) := by
  simp only [resolve] at h
  split at h
  · cases h
  · cases hFirst : files.firstFile? (Path.ofText name :: roots.map (Path.ofText name).under) with
    | ok found => rw [hFirst] at h; cases h
    | error fault =>
        rw [hFirst] at h
        cases h
        exact isOrdinary_of_firstFile? hFirst

end FileSystem

/-! ## Procedures -/

theorem Template.isOrdinary_of_instantiate {t : Template} {frame : FrameId} {id : Nat} {e : Error}
    (h : t.instantiate frame id = .error e)
    (files : FileSystem) : Failure.IsOrdinary files (.error e) := by
  unfold instantiate at h
  split at h
  · cases h
    trivial
  · split at h
    · cases h
      trivial
    · split at h
      · cases h
        trivial
      · cases h

end MiniScheme
