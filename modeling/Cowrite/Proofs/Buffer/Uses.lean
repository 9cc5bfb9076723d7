import Cowrite.Directory
import Cowrite.Proofs.Buffer.Sheet
import Cowrite.Proofs.Session.Bound

/-!
# Buffers in use

All who hold a buffer use one and the same: the user who types, the session that writes, and whoever
else has a name that leads to it. So what becomes of a buffer is what its uses make of it in the
order in which they come, by whichever name, and what is done under other names does not count
(`Directory.get?_useAll`).

Each use leaves a buffer that is made of lines (`Buffer.Tidy.perform`), and is the same use of the
one text that the lines make up (`Sheet.perform?_sheet`). A buffer that keeps nothing but this text
therefore never points outside it, and answers the same all along (`Sheet.performAll?_sheet`). What
holds of every buffer in use is said in `Buffer.Whole` and shown in `Buffer.whole_after`.
-/

namespace Cowrite

namespace Buffer

/-! ## Uses -/

/-- Something that is done to a buffer by somebody who holds it. -/
inductive Use where
  | type (typing : Typing)
  | replaceSilently (text : Text)
  | replaceContent (text : Text)
  | replaceRange (start stop : Nat) (text : Text)
  | invalidate
  | setReadOnly (readOnly : Bool)
  | suspend
  | resume
  | takeChanges

/-- What the editor answers. -/
inductive Reply where
  | told (change : LineChange)
  | wrote (result : Except WriteError Unit)
  | gave (changes : List LineChange)
  | done

/-- Use a buffer. -/
def perform (buffer : Buffer) : Use → Reply × Buffer
  | .type typing => (.told (typing.notice buffer), typing.perform buffer)
  | .replaceSilently text => (.done, buffer.replaceSilently text)
  | .replaceContent text => (buffer.replaceContent text).map .wrote id
  | .replaceRange start stop text => (buffer.replaceRange start stop text).map .wrote id
  | .invalidate => (.done, buffer.invalidate)
  | .setReadOnly readOnly => (.done, buffer.setReadOnly readOnly)
  | .suspend => (.done, buffer.suspend)
  | .resume => (.done, buffer.resume)
  | .takeChanges => buffer.takeChanges.map .gave id

/-- Use a buffer several times. -/
def performAll (buffer : Buffer) : List Use → List Reply × Buffer
  | [] => ([], buffer)
  | use :: rest =>
      ((buffer.perform use).1 :: ((buffer.perform use).2.performAll rest).1,
        ((buffer.perform use).2.performAll rest).2)

/-- Whether a buffer was just made, of a text or of lines. -/
def IsNew (buffer : Buffer) : Prop :=
  (∃ text, buffer = ofText text) ∨ ∃ lines, buffer = ofLines lines

end Buffer

namespace Sheet

/-- Use a sheet. -/
def perform? (sheet : Sheet) : Buffer.Use → Option (Buffer.Reply × Sheet)
  | .type (.setLines first last replacement) =>
      (sheet.setLines? first last replacement).map (Prod.map .told id)
  | .type (.insertText row col text) => (sheet.insertText? row col text).map (Prod.map .told id)
  | .type (.deleteText row col count) => (sheet.deleteText? row col count).map (Prod.map .told id)
  | .replaceSilently text => some (.done, sheet.replaceSilently text)
  | .replaceContent text => some ((sheet.replaceContent text).map .wrote id)
  | .replaceRange start stop text => (sheet.replaceRange? start stop text).map (Prod.map .wrote id)
  | .invalidate => some (.done, { sheet with valid := false })
  | .setReadOnly readOnly => some (.done, { sheet with readOnly })
  | .suspend => some (.done, { sheet with suspensions := sheet.suspensions + 1 })
  | .resume => some (.done, { sheet with suspensions := sheet.suspensions - 1 })
  | .takeChanges => some (.gave sheet.changes, { sheet with changes := [] })

/-- Use a sheet several times. -/
def performAll? (sheet : Sheet) : List Buffer.Use → Option (List Buffer.Reply × Sheet)
  | [] => some ([], sheet)
  | use :: rest => do
      let (reply, next) ← sheet.perform? use
      let (replies, last) ← next.performAll? rest
      return (reply :: replies, last)

end Sheet

namespace Buffer

variable {buffer : Buffer}

/-! ## One use and many -/

theorem IsNew.exists_text (new : buffer.IsNew) : ∃ text, buffer = ofText text := by
  rcases new with ⟨text, made⟩ | ⟨lines, made⟩
  · exact ⟨text, made⟩
  · cases lines with
    | nil => exact ⟨[], made⟩
    | cons line rest => exact ⟨Text.joinLines true (line :: rest), made⟩

theorem tidy_ofText (text : Text) : (ofText text).Tidy :=
  tidy_of_splitLines rfl

/-- A buffer stays one that is made of lines. -/
theorem Tidy.perform (tidy : buffer.Tidy) (use : Use) : (buffer.perform use).2.Tidy := by
  cases use with
  | type typing => exact Typing.tidy_perform tidy typing
  | replaceSilently text => exact tidy_of_splitLines rfl
  | replaceContent text => exact tidy.replaceContent text
  | replaceRange start stop text => exact tidy.replaceRange start stop text
  | invalidate => exact tidy.of_lines_eq rfl
  | setReadOnly readOnly => exact tidy.of_lines_eq rfl
  | suspend => exact tidy.suspend
  | resume => exact tidy.of_lines_eq rfl
  | takeChanges => exact tidy.of_lines_eq rfl

theorem Tidy.performAll (tidy : buffer.Tidy) (uses : List Use) :
    (buffer.performAll uses).2.Tidy := by
  induction uses generalizing buffer with
  | nil => exact tidy
  | cons use rest ih => exact ih (tidy.perform use)

end Buffer

namespace Sheet

variable {buffer : Buffer}

/-- A use of a buffer is the same use of its sheet. -/
theorem perform?_sheet (tidy : buffer.Tidy) (use : Buffer.Use) :
    buffer.sheet.perform? use =
      some ((buffer.perform use).1, (buffer.perform use).2.sheet) := by
  cases use with
  | type typing =>
      cases typing with
      | setLines first last replacement =>
          rw [perform?, setLines?_sheet tidy]
          rfl
      | insertText row col text =>
          rw [perform?, insertText?_sheet tidy]
          rfl
      | deleteText row col count =>
          rw [perform?, deleteText?_sheet tidy]
          rfl
  | replaceSilently text =>
      rw [perform?, ← sheet_replaceSilently]
      rfl
  | replaceContent text =>
      rw [perform?, replaceContent_sheet tidy]
      rfl
  | replaceRange start stop text =>
      rw [perform?, replaceRange?_sheet tidy]
      rfl
  | invalidate => rfl
  | setReadOnly readOnly => rfl
  | suspend => rfl
  | resume => rfl
  | takeChanges => rfl

/-- Whatever is done to a buffer can be done to its sheet, which stays the sheet of the buffer. -/
theorem performAll?_sheet (tidy : buffer.Tidy) (uses : List Buffer.Use) :
    buffer.sheet.performAll? uses =
      some ((buffer.performAll uses).1, (buffer.performAll uses).2.sheet) := by
  induction uses generalizing buffer with
  | nil => rfl
  | cons use rest ih =>
      have later := ih (tidy.perform use)
      rw [performAll?, perform?_sheet tidy]
      simp only [Option.bind_eq_bind, Option.bind_some, later]
      rfl

end Sheet

/-! ## Buffers that are shared -/

namespace Directory

open Buffer (Use)

theorem find?_eq_some_iff {α : Type} {directory : Directory α} {name : String} {handle : Handle}
    {thing : α} :
    directory.find? name = some (handle, thing) ↔
      directory.handle? name = some handle ∧ directory.get? handle = some thing := by
  simp only [find?, Option.bind_eq_bind, Option.bind_eq_some_iff, Option.pure_def,
    Option.some.injEq, Prod.mk.injEq]
  constructor
  · rintro ⟨_, leads, _, held, rfl, rfl⟩
    exact ⟨leads, held⟩
  · rintro ⟨leads, held⟩
    exact ⟨handle, leads, thing, held, rfl, rfl⟩

/-- Use the buffer that a name leads to. -/
def use (directory : Directory Buffer) (turn : String × Use) : Directory Buffer :=
  match directory.find? turn.1 with
  | some (handle, buffer) => directory.put handle (buffer.perform turn.2).2
  | none => directory

/-- Use buffers in turn. -/
def useAll (directory : Directory Buffer) (turns : List (String × Use)) : Directory Buffer :=
  turns.foldl use directory

/-- The uses of one buffer, by whichever name. -/
def usesOf (directory : Directory Buffer) (handle : Handle) (turns : List (String × Use)) :
    List Use :=
  turns.filterMap fun turn =>
    if directory.handle? turn.1 = some handle then some turn.2 else none

/-- Names stay as they are. -/
theorem handle?_use (directory : Directory Buffer) (turn : String × Use) (name : String) :
    (directory.use turn).handle? name = directory.handle? name := by
  rw [use]
  split
  · rfl
  · rfl

/-- A use is a use of the one buffer to which the name leads. -/
theorem get?_use (directory : Directory Buffer) (turn : String × Use) (handle : Handle) :
    (directory.use turn).get? handle =
      if directory.handle? turn.1 = some handle then
        (directory.get? handle).map fun buffer => (buffer.perform turn.2).2
      else directory.get? handle := by
  rw [use]
  rcases found : directory.find? turn.1 with _ | ⟨other, buffer⟩
  · simp only
    split
    case isTrue leads =>
      cases held : directory.get? handle with
      | none => rfl
      | some buffer =>
          rw [find?_eq_some_iff.2 ⟨leads, held⟩] at found
          cases found
    case isFalse => rfl
  · rcases find?_eq_some_iff.1 found with ⟨leads, held⟩
    simp only
    by_cases same : other = handle
    · subst same
      have present : other < directory.things.length := (List.getElem?_eq_some_iff.1 held).1
      rw [get?_put_self present, if_pos leads, held, Option.map_some]
    · have elsewhere : directory.handle? turn.1 ≠ some handle := by
        rw [leads]
        exact fun found => same (Option.some.inj found)
      rw [get?_put_of_ne_handle directory same, if_neg elsewhere]

theorem usesOf_use (directory : Directory Buffer) (turn : String × Use) (handle : Handle)
    (turns : List (String × Use)) :
    (directory.use turn).usesOf handle turns = directory.usesOf handle turns := by
  simp only [usesOf, handle?_use]

theorem handle?_useAll (directory : Directory Buffer) (turns : List (String × Use))
    (name : String) : (directory.useAll turns).handle? name = directory.handle? name := by
  induction turns generalizing directory with
  | nil => rfl
  | cons turn rest ih => exact (ih (directory.use turn)).trans (directory.handle?_use turn name)

/-- What becomes of a buffer is what its own uses make of it. -/
theorem get?_useAll (directory : Directory Buffer) (turns : List (String × Use))
    (handle : Handle) :
    (directory.useAll turns).get? handle =
      (directory.get? handle).map fun buffer =>
        (buffer.performAll (directory.usesOf handle turns)).2 := by
  induction turns generalizing directory with
  | nil => exact Option.map_id'.symm
  | cons turn rest ih =>
      have later := ih (directory.use turn)
      rw [usesOf_use, get?_use] at later
      rw [useAll, List.foldl_cons]
      refine later.trans ?_
      by_cases leads : directory.handle? turn.1 = some handle
      · have uses : directory.usesOf handle (turn :: rest) =
            turn.2 :: directory.usesOf handle rest := by
          simp [usesOf, leads]
        rw [if_pos leads, uses, Option.map_map]
        rfl
      · have uses : directory.usesOf handle (turn :: rest) = directory.usesOf handle rest := by
          simp [usesOf, leads]
        rw [if_neg leads, uses]

end Directory

namespace Buffer

variable {buffer : Buffer}

/-! ## What holds of every buffer in use -/

/-- Whether lines and content of a buffer are two forms of one thing, and a write that is refused
leaves everything as it is. -/
structure Whole (buffer : Buffer) : Prop where
  ends : ∃ front, buffer.content = front ++ ['\n']
  nonempty : buffer.lines ≠ []
  plain : ∀ line ∈ buffer.lines, '\n' ∉ line
  split : buffer.lines = Text.splitLines buffer.content
  joined : buffer.content = Text.joinLines true buffer.lines
  /-- The content tells how many lines there are. -/
  counted : Text.rowCount buffer.content = buffer.lines.length
  contentRefused : ∀ text error, (buffer.replaceContent text).1 = .error error →
    (buffer.replaceContent text).2 = buffer
  rangeRefused : ∀ start stop text error, (buffer.replaceRange start stop text).1 = .error error →
    (buffer.replaceRange start stop text).2 = buffer

theorem replaceContent_of_error {text : Text} {error : WriteError}
    (refused : (buffer.replaceContent text).1 = .error error) :
    (buffer.replaceContent text).2 = buffer := by
  rw [replaceContent] at refused ⊢
  split at refused
  · rfl
  · cases refused

theorem replaceRange_of_error {start stop : Nat} {text : Text} {error : WriteError}
    (refused : (buffer.replaceRange start stop text).1 = .error error) :
    (buffer.replaceRange start stop text).2 = buffer := by
  cases refuses : buffer.refusal? with
  | some error => rw [replaceRange, refuses]
  | none =>
      by_cases placed : buffer.Placed start stop
      · rcases exists_replaceRange refuses placed text with ⟨_, _, _, _, _, wrote⟩
        rw [wrote] at refused
        cases refused
      · rw [replaceRange_of_misplaced refuses placed]

theorem Tidy.whole (tidy : buffer.Tidy) : buffer.Whole where
  ends := tidy.ends
  nonempty := tidy.nonempty
  plain := tidy.plain
  split := (Text.splitLines_joinLines tidy.nonempty tidy.plain).symm
  joined := rfl
  counted := Sheet.rowCount_sheet tidy
  contentRefused _ _ := replaceContent_of_error
  rangeRefused _ _ _ _ := replaceRange_of_error

/-- A buffer that is new can be used by all names that lead to it, in any order. All of them find
what its uses so far have made of it; lines and content stay two forms of one thing; and one text
would do instead of the lines, with the same answers and without ever pointing outside it. -/
theorem whole_after {directory : Directory Buffer} {name : String} {handle : Handle}
    (held : directory.find? name = some (handle, buffer)) (new : buffer.IsNew)
    (turns : List (String × Use)) :
    ∃ text replies after,
      buffer = ofText text ∧
        buffer.performAll (directory.usesOf handle turns) = (replies, after) ∧
        (∀ other, directory.handle? other = some handle →
          (directory.useAll turns).find? other = some (handle, after)) ∧
        after.Whole ∧
        (Sheet.ofText text).performAll? (directory.usesOf handle turns) =
          some (replies, after.sheet) ∧
        after.sheet.lines? = some after.lines := by
  rcases new.exists_text with ⟨text, rfl⟩
  have tidy := tidy_ofText text
  have last := tidy.performAll (directory.usesOf handle turns)
  refine ⟨text, _, _, rfl, rfl, ?_, last.whole, ?_, Sheet.lines?_sheet last⟩
  · intro other leads
    rcases Directory.find?_eq_some_iff.1 held with ⟨_, found⟩
    rw [Directory.find?_eq_some_iff, Directory.handle?_useAll, Directory.get?_useAll, found]
    exact ⟨leads, rfl⟩
  · rw [← Sheet.sheet_ofText]
    exact Sheet.performAll?_sheet tidy _

/-- A user and a session hold a buffer under names of their own. The line that the user splits is
written to by the session, what is done to another buffer does not count, and a write that is
refused changes nothing. -/
theorem whole_after_sharing :
    let directory : Directory Buffer :=
      { things := [ofLines [], ofText ['a', 'b']]
        names := [("user", 1), ("session", 1), ("other", 0)] }
    let turns : List (String × Use) :=
      [("user", .type (.insertText 0 1 ['\n'])), ("other", .invalidate),
        ("session", .replaceRange 0 1 ['é']), ("user", .setReadOnly true),
        ("session", .replaceContent ['x'])]
    directory.find? "user" = some (1, ofText ['a', 'b']) ∧ (ofText ['a', 'b']).IsNew ∧
      ∃ after, (directory.useAll turns).find? "session" = some (1, after) ∧ after.Whole ∧
        after.lines = [['é'], ['b']] ∧ after.content = ['é', '\n', 'b', '\n'] ∧
        after.writes = 1 ∧ after.changes = [⟨0, 1, 2, some 3⟩, ⟨0, 1, 1, some 2⟩] := by
  intro directory turns
  have held : directory.find? "user" = some (1, ofText ['a', 'b']) := by decide +kernel
  have shared : directory.handle? "session" = some 1 := by decide +kernel
  have new : (ofText ['a', 'b']).IsNew := .inl ⟨_, rfl⟩
  have uses : directory.usesOf 1 turns =
      [.type (.insertText 0 1 ['\n']), .replaceRange 0 1 ['é'], .setReadOnly true,
        .replaceContent ['x']] := by
    simp [directory, turns, Directory.usesOf, Directory.handle?, Shelf.get?]
  rcases whole_after held new turns with ⟨_, _, after, _, performed, found, whole, _⟩
  rw [uses] at performed
  cases performed
  exact ⟨held, new, _, found "session" shared, whole, by decide +kernel, by decide +kernel,
    by decide +kernel, by decide +kernel⟩

end Buffer

end Cowrite
