import CatalogHealth.Text.Basic
import CatalogHealth.Text.Split

/-!
# Glob patterns

A glob is compared with a whole text, upper and lower case apart. A star
stands for any run of code points, dots and line breaks included, a question
mark for one of them, and brackets for one of a class: listed ones and ranges,
or all others after an exclamation mark. A range whose ends are in the wrong
order is empty. A bracket that is never closed stands for itself, as does every
other code point.

The meaning of a glob is the relation `Glob.Matches`; `Glob.matches_iff` says
that the table built by `Glob.verdicts` decides it.
-/

namespace CatalogHealth

/-- A part of a glob. -/
inductive GlobItem where
  /-- Any run of code points. -/
  | anyRun
  /-- One code point inside the closed ranges, or outside if negated. -/
  | oneOf (negated : Bool) (ranges : List (CodePoint × CodePoint))
deriving DecidableEq, Repr

namespace GlobItem

/-- A code point that stands for itself. -/
def literal (c : CodePoint) : GlobItem := oneOf false [(c, c)]

/-- Any single code point. -/
def anyOne : GlobItem := oneOf true []

end GlobItem

/-- Whether a code point lies in one of the closed ranges. -/
def inPointRanges (ranges : List (CodePoint × CodePoint)) (c : CodePoint) : Bool :=
  ranges.any fun (first, last) => first.value ≤ c.value && c.value ≤ last.value

/-- A glob: its parts in order. -/
abbrev Glob := List GlobItem

namespace Glob

/-- The text between the brackets of a class, given what follows the opening
one: an exclamation mark and a closing bracket in front belong to it. -/
def classBody? (cs : List CodePoint) : Option (List CodePoint) :=
  let (mark, afterMark) :=
    if cs.head? = some (.char '!') then ([.char '!'], cs.drop 1) else ([], cs)
  let (bracket, rest) :=
    if afterMark.head? = some (.char ']') then ([.char ']'], afterMark.drop 1) else ([], afterMark)
  (Text.cut (.char ']') rest).map fun (before, _) => mark ++ bracket ++ before

/-- The pieces of a class between the hyphens that make ranges. A hyphen makes
a range only after `least` code points of its piece; the piece read so far is
`piece` backwards. -/
def rangePieces (least : Nat) (piece : List CodePoint) : List CodePoint → List (List CodePoint)
  | [] => [piece.reverse]
  | c :: rest =>
    if c = '-' ∧ least ≤ piece.length then piece.reverse :: rangePieces 2 [] rest
    else rangePieces least (c :: piece) rest

/-- A hyphen at the end of a class makes no range and belongs to the last
piece. -/
def closePieces : List (List CodePoint) → List (List CodePoint)
  | [piece, []] => [piece ++ [.char '-']]
  | piece :: rest => piece :: closePieces rest
  | [] => []

/-- Whether the range between two pieces is empty. -/
def emptyRange (piece next : List CodePoint) : Bool :=
  match piece.getLast?, next.head? with
  | some low, some high => high.value < low.value
  | _, _ => false

/-- The pieces without the empty ranges between them, from the last one on. -/
def joinPieces : List (List CodePoint) → List (List CodePoint)
  | [] => []
  | piece :: rest =>
    match joinPieces rest with
    | [] => [piece]
    | next :: more =>
      if emptyRange piece next then (piece.dropLast ++ next.drop 1) :: more
      else piece :: next :: more

/-- The code points of the pieces and the ranges between them. A hyphen with
nothing on one side stands for itself. -/
def pieceRanges : List (List CodePoint) → List (CodePoint × CodePoint)
  | [] => []
  | [piece] => piece.map fun c => (c, c)
  | piece :: next :: rest =>
    let between :=
      match piece.getLast?, next.head? with
      | some low, some high => (low, high)
      | _, _ => (.char '-', .char '-')
    (piece.map fun c => (c, c)) ++ between :: pieceRanges (next :: rest)

/-- The class with a given body. -/
def classItem (body : List CodePoint) : GlobItem :=
  let least := if body.head? = some (.char '!') then 2 else 1
  match joinPieces (closePieces (rangePieces least [] body)) with
  | (.char '!' :: piece) :: rest => .oneOf true (pieceRanges (piece :: rest))
  | pieces => .oneOf false (pieceRanges pieces)

/-- The parts of a pattern after its first `skip` code points. -/
def itemsFrom : Nat → List CodePoint → Glob
  | _, [] => []
  | skip + 1, _ :: rest => itemsFrom skip rest
  | 0, c :: rest =>
    if c = '*' then .anyRun :: itemsFrom 0 rest
    else if c = '?' then .anyOne :: itemsFrom 0 rest
    else if c = '[' then
      match classBody? rest with
      | some body => classItem body :: itemsFrom (body.length + 1) rest
      | none => .literal c :: itemsFrom 0 rest
    else .literal c :: itemsFrom 0 rest

/-- The glob that a pattern spells. -/
def ofText (pattern : Text) : Glob := itemsFrom 0 pattern.points

/-- Which texts a glob describes. -/
inductive Matches : Glob → List CodePoint → Prop where
  /-- Nothing is left on either side. -/
  | done : Matches [] []
  /-- A run ends. -/
  | stop {glob cs} : Matches glob cs → Matches (.anyRun :: glob) cs
  /-- A run takes one more code point. -/
  | take {glob c cs} : Matches (.anyRun :: glob) cs → Matches (.anyRun :: glob) (c :: cs)
  /-- A class takes a code point. -/
  | one {negated ranges glob c cs} : inPointRanges ranges c = !negated → Matches glob cs →
      Matches (.oneOf negated ranges :: glob) (c :: cs)

/-- For every suffix of a list of verdicts, whether it holds a positive one. -/
def anyFrom : List Bool → List Bool
  | [] => []
  | b :: rest => (b || rest.any id) :: anyFrom rest

/-- For a text and each of its suffixes, the longest first, whether a glob
describes it. -/
def verdicts : Glob → List CodePoint → List Bool
  | [], cs => cs.map (fun _ => false) ++ [true]
  | .anyRun :: glob, cs => anyFrom (verdicts glob cs)
  | .oneOf negated ranges :: glob, cs =>
    List.zipWith (fun c rest => inPointRanges ranges c == !negated && rest) cs
      (verdicts glob cs).tail ++ [false]

/-- Whether a glob describes a text. -/
def accepts (glob : Glob) (t : Text) : Bool := (verdicts glob t.points).headD false

theorem length_anyFrom (bs : List Bool) : (anyFrom bs).length = bs.length := by
  induction bs with
  | nil => rfl
  | cons b rest ih => simp [anyFrom, ih]

theorem length_verdicts (glob : Glob) (cs : List CodePoint) :
    (verdicts glob cs).length = cs.length + 1 := by
  induction glob generalizing cs with
  | nil => simp [verdicts]
  | cons item glob ih =>
    cases item with
    | anyRun => simp [verdicts, length_anyFrom, ih]
    | oneOf negated ranges => simp [verdicts, ih]

/-- The verdicts about the suffixes after the first are those about the rest. -/
theorem tail_verdicts (glob : Glob) (c : CodePoint) (cs : List CodePoint) :
    (verdicts glob (c :: cs)).tail = verdicts glob cs := by
  induction glob generalizing c cs with
  | nil => simp [verdicts]
  | cons item glob ih =>
    cases item with
    | anyRun =>
      have h := length_verdicts glob (c :: cs)
      cases hv : verdicts glob (c :: cs) with
      | nil => simp [hv] at h
      | cons b bs =>
        have : bs = verdicts glob cs := by rw [← ih c cs, hv]; rfl
        simp [verdicts, hv, anyFrom, this]
    | oneOf negated ranges =>
      rw [verdicts, verdicts, ih c cs]
      have h := length_verdicts glob cs
      cases hv : verdicts glob cs with
      | nil => simp [hv] at h
      | cons b bs => simp

/-- Whether a glob describes a list of code points. -/
def decides (glob : Glob) (cs : List CodePoint) : Bool := (verdicts glob cs).headD false

theorem decides_nil (cs : List CodePoint) : decides [] cs = cs.isEmpty := by
  cases cs <;> simp [decides, verdicts]

theorem verdicts_eq_cons (glob : Glob) (c : CodePoint) (cs : List CodePoint) :
    verdicts glob (c :: cs) = decides glob (c :: cs) :: verdicts glob cs := by
  have h := length_verdicts glob (c :: cs)
  have ht := tail_verdicts glob c cs
  unfold decides
  cases hv : verdicts glob (c :: cs) with
  | nil => simp [hv] at h
  | cons b bs =>
    rw [hv] at ht
    simpa using ht

theorem verdicts_nil (glob : Glob) : verdicts glob [] = [decides glob []] := by
  have h := length_verdicts glob []
  unfold decides
  cases hv : verdicts glob [] with
  | nil => simp [hv] at h
  | cons b bs =>
    rw [hv] at h
    cases bs with
    | nil => rfl
    | cons _ _ => simp at h

theorem decides_anyRun_nil (glob : Glob) : decides (.anyRun :: glob) [] = decides glob [] := by
  show (anyFrom (verdicts glob [])).headD false = _
  rw [verdicts_nil]
  simp [anyFrom]

theorem headD_anyFrom (bs : List Bool) : (anyFrom bs).headD false = bs.any id := by
  cases bs <;> simp [anyFrom]

theorem decides_anyRun_cons (glob : Glob) (c : CodePoint) (cs : List CodePoint) :
    decides (.anyRun :: glob) (c :: cs) =
      (decides glob (c :: cs) || decides (.anyRun :: glob) cs) := by
  show (anyFrom (verdicts glob (c :: cs))).headD false =
    (decides glob (c :: cs) || (anyFrom (verdicts glob cs)).headD false)
  rw [headD_anyFrom, headD_anyFrom, verdicts_eq_cons]
  simp

theorem decides_oneOf_nil (negated : Bool) (ranges : List (CodePoint × CodePoint)) (glob : Glob) :
    decides (.oneOf negated ranges :: glob) [] = false := by
  simp [decides, verdicts]

theorem decides_oneOf_cons (negated : Bool) (ranges : List (CodePoint × CodePoint)) (glob : Glob)
    (c : CodePoint) (cs : List CodePoint) :
    decides (.oneOf negated ranges :: glob) (c :: cs) =
      (inPointRanges ranges c == !negated && decides glob cs) := by
  show (List.zipWith _ (c :: cs) (verdicts glob (c :: cs)).tail ++ [false]).headD false = _
  rw [tail_verdicts]
  unfold decides
  have h := length_verdicts glob cs
  cases hv : verdicts glob cs with
  | nil => simp [hv] at h
  | cons b bs => simp

theorem matches_of_decides {glob : Glob} {cs : List CodePoint} (h : decides glob cs = true) :
    Matches glob cs := by
  induction glob generalizing cs with
  | nil =>
    rw [decides_nil] at h
    cases cs with
    | nil => exact .done
    | cons _ _ => simp at h
  | cons item glob ih =>
    cases item with
    | anyRun =>
      induction cs with
      | nil => exact .stop (ih (by rwa [decides_anyRun_nil] at h))
      | cons c cs ihc =>
        rw [decides_anyRun_cons, Bool.or_eq_true] at h
        rcases h with h | h
        · exact .stop (ih h)
        · exact .take (ihc h)
    | oneOf negated ranges =>
      cases cs with
      | nil => simp [decides_oneOf_nil] at h
      | cons c cs =>
        rw [decides_oneOf_cons, Bool.and_eq_true] at h
        exact .one (by simpa using h.1) (ih h.2)

theorem decides_of_matches {glob : Glob} {cs : List CodePoint} (h : Matches glob cs) :
    decides glob cs = true := by
  induction h with
  | done => rfl
  | @stop glob cs _ ih =>
    cases cs with
    | nil => rwa [decides_anyRun_nil]
    | cons c cs => rw [decides_anyRun_cons, ih, Bool.true_or]
  | take _ ih => rw [decides_anyRun_cons, ih, Bool.or_true]
  | one hc _ ih => simp [decides_oneOf_cons, hc, ih]

/-- The table of verdicts decides which texts a glob describes. -/
theorem matches_iff {glob : Glob} {t : Text} :
    glob.accepts t = true ↔ Matches glob t.points :=
  ⟨matches_of_decides, decides_of_matches⟩

end Glob

end CatalogHealth
