/-!
# Criteria and flaws

A reader scores a book from one to five by five criteria. `Scores α` holds one value for each of
them; `Flaw` says what keeps a submission from being accepted.
-/

namespace Bookfinder

/-- What a reader judges a book by. -/
inductive Criterion where
  | style
  | content
  | pleasantness
  | originality
  | edition
deriving DecidableEq, Repr

namespace Criterion

/-- The criteria, in the order in which they are asked. -/
def all : List Criterion := [.style, .content, .pleasantness, .originality, .edition]

theorem mem_all (c : Criterion) : c ∈ all := by cases c <;> decide

/-- The name of a criterion in requests and messages. -/
def name : Criterion → String
  | .style => "style"
  | .content => "content"
  | .pleasantness => "pleasantness"
  | .originality => "originality"
  | .edition => "edition"

end Criterion

/-- One value for each criterion. -/
structure Scores (α : Type) where
  style : α
  content : α
  pleasantness : α
  originality : α
  edition : α
deriving DecidableEq

namespace Scores

variable {α β : Type}

/-- The value of one criterion. -/
def get (s : Scores α) : Criterion → α
  | .style => s.style
  | .content => s.content
  | .pleasantness => s.pleasantness
  | .originality => s.originality
  | .edition => s.edition

/-- The values given by a function of the criterion. -/
def ofFn (f : Criterion → α) : Scores α :=
  ⟨f .style, f .content, f .pleasantness, f .originality, f .edition⟩

@[simp] theorem get_ofFn (f : Criterion → α) (c : Criterion) : (ofFn f).get c = f c := by
  cases c <;> rfl

/-- The values given by a computation for each criterion, run in order. -/
def ofFnM {m : Type → Type} [Monad m] (f : Criterion → m α) : m (Scores α) := do
  let style ← f .style
  let content ← f .content
  let pleasantness ← f .pleasantness
  let originality ← f .originality
  let edition ← f .edition
  return ⟨style, content, pleasantness, originality, edition⟩

/-- Where no computation fails, the values are those of a function. -/
theorem ofFnM_eq_ok {ε : Type} {f : Criterion → Except ε α} {g : Criterion → α}
    (h : ∀ c, f c = .ok (g c)) : ofFnM f = .ok (ofFn g) := by
  simp only [ofFnM, h]
  rfl

/-- The values in the order of the criteria. -/
def toList (s : Scores α) : List α := Criterion.all.map s.get

end Scores

/-- Why a submitted rating is refused. -/
inductive Flaw where
  | missingUsername
  | missingIsbn
  | missingScore (c : Criterion)
  | scoreOutOfRange (c : Criterion)
deriving DecidableEq, Repr

namespace Flaw

/-- The code of a flaw. -/
def reason : Flaw → String
  | .missingUsername => "missing_username"
  | .missingIsbn => "missing_isbn"
  | .missingScore _ => "missing_score"
  | .scoreOutOfRange _ => "score_out_of_range"

/-- The field that a flaw is about. -/
def field : Flaw → String
  | .missingUsername => "username"
  | .missingIsbn => "isbn"
  | .missingScore c | .scoreOutOfRange c => c.name

end Flaw

end Bookfinder
