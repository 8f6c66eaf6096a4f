/-
Module: MonsaEbpf.Lib.ReportRows
Layer: Lib
Purpose: Logs of reports with one row for each thing that a report shows, a label and a text. Most texts keep to
  their line, but a free text may hold line ends, and then what follows it can look like further rows. A log
  still determines what its reports show when no free text is long enough to reach a place where its own end
  could stand, which can be checked on the labels alone (`log_determines`).
Imports: MonsaEbpf.Lib.LogLines, MonsaEbpf.Lib.Snprintf
Trusted boundary: none
Main exports: ReportRows.signedText, ReportRows.Item, ReportRows.Row, ReportRows.Row.Fits, ReportRows.report, ReportRows.log,
  ReportRows.noEcho, ReportRows.unambiguous, ReportRows.no_echo, ReportRows.log_determines
-/
import MonsaEbpf.Lib.LogLines
import MonsaEbpf.Lib.Snprintf

namespace ReportRows

open DottedQuad Snprintf

/-! ### Signed numbers -/

/-- A number with a sign when it is negative. -/
def signedText (number : Int) : List Char :=
  (if number < 0 then ['-'] else []) ++ decimal number.natAbs

theorem notMem_signedText {char : Char} (other : char.isDigit = false) (noSign : char ≠ '-') (number : Int) :
    char ∉ signedText number := by
  intro member
  rcases List.mem_append.mp member with sign | digit
  · by_cases negative : number < 0 <;> simp [negative, noSign] at sign
  · exact absurd (isDigit_of_mem_decimal digit) (by rw [other]; decide)

theorem signedText_injective : Function.Injective signedText := by
  intro first second same
  have unsigned (number : Nat) (rest : List Char) : decimal number ≠ '-' :: rest := by
    intro same
    have digit := isDigit_of_mem_decimal (same ▸ List.mem_cons_self : '-' ∈ decimal number)
    exact absurd digit (by decide)
  rw [signedText, signedText] at same
  by_cases negative : first < 0 <;> by_cases negative' : second < 0
  · rw [if_pos negative, if_pos negative', List.append_cancel_left_eq] at same
    have magnitude := decimal_injective same
    omega
  · rw [if_pos negative, if_neg negative'] at same
    exact absurd same.symm (unsigned _ _)
  · rw [if_neg negative, if_pos negative'] at same
    exact absurd same (unsigned _ _)
  · rw [if_neg negative, if_neg negative', List.append_cancel_left_eq] at same
    have magnitude := decimal_injective same
    omega

/-! ### Items -/

/-- A text of an event, with the numbers that can be read back from it. -/
structure Item (E : Type) where
  text : E → List Char
  shown : E → List Nat
  reads : ∀ {event event'}, text event = text event' → shown event = shown event'

namespace Item

variable {E : Type}

/-- The text is there and stays in its line. -/
def Solid (item : Item E) (event : E) : Prop :=
  '\n' ∉ item.text event ∧ item.text event ≠ []

/-- No text. -/
def empty : Item E where
  text _ := []
  shown _ := []
  reads _ := rfl

/-- A number in decimal. -/
def number (value : E → Nat) : Item E where
  text event := decimal (value event)
  shown event := [value event]
  reads same := congrArg (fun number => [number]) (decimal_injective same)

/-- A number in hexadecimal. -/
def hexadecimal (value : E → Nat) : Item E where
  text event := Nat.toDigits 16 (value event)
  shown event := [value event]
  reads same := congrArg (fun number => [number]) (LogLines.toDigits_injective (by decide) (by decide) same)

/-- A number with a sign when it is negative. -/
def signed (value : E → Int) : Item E where
  text event := signedText (value event)
  shown event := [if value event < 0 then 1 else 0, (value event).natAbs]
  reads same := congrArg (fun number : Int => [if number < 0 then 1 else 0, number.natAbs])
    (signedText_injective same)

/-- An address as a dotted quad. -/
def address (value : E → BitVec 32) : Item E where
  text event := addressText (value event)
  shown event := [(value event).toNat]
  reads same := congrArg (fun address => [address.toNat]) (addressText_injective same)

/-- A number in units of a negative power of ten. -/
def fixed (places : Nat) (whole part : E → Nat) : Item E where
  text event := fixedPoint places (whole event) (part event)
  shown event := [whole event * 10 ^ places + part event]
  reads same := by
    have read := congrArg (readFixedPoint places) same
    rw [readFixedPoint_fixedPoint, readFixedPoint_fixedPoint] at read
    exact congrArg (fun number => [number]) (Option.some.inj read)

/-- A text that shows itself. -/
def word (text : E → List Char) : Item E where
  text := text
  shown event := (text event).map Char.toNat
  reads same := congrArg (List.map Char.toNat) same

/-- A text with another behind it. -/
def followed (item : Item E) (suffix : List Char) : Item E where
  text event := item.text event ++ suffix
  shown := item.shown
  reads same := item.reads (List.append_cancel_right same)

/-- A text ends where the first separator stands. -/
theorem separated_inj {separator : Char} {text text' rest rest' : List Char} (apart : separator ∉ text)
    (apart' : separator ∉ text') (same : text ++ separator :: rest = text' ++ separator :: rest') :
    text = text' ∧ rest = rest' := by
  rcases List.append_eq_append_iff.mp same with ⟨gap, longer, later⟩ | ⟨gap, longer, later⟩
  · cases gap with
    | nil => exact ⟨(longer.trans (List.append_nil text)).symm, (List.cons.inj later).2⟩
    | cons first gap =>
        rw [← (List.cons.inj later).1] at longer
        exact absurd (longer ▸ List.mem_append_right text List.mem_cons_self) apart'
  · cases gap with
    | nil => exact ⟨longer.trans (List.append_nil text'), (List.cons.inj later).2.symm⟩
    | cons first gap =>
        rw [← (List.cons.inj later).1] at longer
        exact absurd (longer ▸ List.mem_append_right text' List.mem_cons_self) apart

/-- Two texts with a separator between them, which the first one does not have. -/
def beside (first : Item E) (separator : Char) (rest : List Char) (second : Item E)
    (apart : ∀ event, separator ∉ first.text event) : Item E where
  text event := first.text event ++ separator :: (rest ++ second.text event)
  shown event := first.shown event ++ second.shown event
  reads {event event'} same := by
    rcases separated_inj (apart event) (apart event') same with ⟨sameFirst, later⟩
    rw [first.reads sameFirst, second.reads (List.append_cancel_left later)]

/-! ### Items that stay in their line -/

@[simp] theorem solid_number (value : E → Nat) (event : E) : (number value).Solid event := by
  refine ⟨fun lineEnd => ?_, Nat.toDigits_ne_nil⟩
  exact absurd (isDigit_of_mem_decimal lineEnd) (by decide)

@[simp] theorem solid_hexadecimal (value : E → Nat) (event : E) : (hexadecimal value).Solid event := by
  refine ⟨fun lineEnd => ?_, Nat.toDigits_ne_nil⟩
  exact absurd (LogLines.isAlphanum_of_mem_toDigits (by decide) (by decide) lineEnd) (by decide)

@[simp] theorem solid_signed (value : E → Int) (event : E) : (signed value).Solid event :=
  ⟨notMem_signedText (by decide) (by decide) _, List.append_ne_nil_of_right_ne_nil _ Nat.toDigits_ne_nil⟩

/-- A dotted quad has digits and points. -/
theorem notMem_addressText {char : Char} (address : BitVec 32) (other : char.isDigit = false)
    (noPoint : char ≠ '.') : char ∉ addressText address := by
  have notDigit (number : Nat) : char ∉ decimal number := fun member =>
    absurd (isDigit_of_mem_decimal member) (by rw [other]; decide)
  simp [addressText, dottedQuad, notDigit, noPoint]

@[simp] theorem solid_address (value : E → BitVec 32) (event : E) : (address value).Solid event :=
  ⟨notMem_addressText _ (by decide) (by decide), List.append_ne_nil_of_left_ne_nil Nat.toDigits_ne_nil _⟩

@[simp] theorem solid_fixed (places : Nat) (whole part : E → Nat) (event : E) :
    (fixed places whole part).Solid event := by
  refine ⟨fun lineEnd => ?_, List.append_ne_nil_of_left_ne_nil Nat.toDigits_ne_nil _⟩
  rcases List.mem_append.mp lineEnd with digit | later
  · exact absurd (isDigit_of_mem_decimal digit) (by decide)
  · rcases List.mem_cons.mp later with point | digit
    · exact absurd point (by decide)
    · exact absurd (isDigit_of_mem_padded digit) (by decide)

@[simp] theorem solid_followed {item : Item E} {event : E} {suffix : List Char} (solid : item.Solid event)
    (single : '\n' ∉ suffix) : (item.followed suffix).Solid event :=
  ⟨by simp [followed, solid.1, single], List.append_ne_nil_of_left_ne_nil solid.2 _⟩

@[simp] theorem solid_beside {first second : Item E} {separator : Char} {rest : List Char} {event : E}
    {apart : ∀ event, separator ∉ first.text event} (solid : first.Solid event) (other : '\n' ≠ separator)
    (single : '\n' ∉ rest) (solid' : second.Solid event) :
    (first.beside separator rest second apart).Solid event :=
  ⟨by simp [beside, solid.1, other, single, solid'.1], List.append_ne_nil_of_left_ne_nil solid.2 _⟩

end Item

/-! ### Rows -/

/-- What is known about the text of a row: it is empty, it stays in its line and has so many characters at
least, or it may be anything up to a length. -/
inductive Kind where
  | heading
  | line (least : Nat)
  | free (limit : Nat)
deriving DecidableEq, Repr

namespace Kind

def Allows : Kind → List Char → Prop
  | .heading, text => text = []
  | .line least, text => '\n' ∉ text ∧ least ≤ text.length
  | .free limit, text => text.length ≤ limit

/-- The length that a text has at least. -/
def least : Kind → Nat
  | .heading => 0
  | .line least => least
  | .free _ => 0

/-- The limit of a free text. -/
def limit? : Kind → Option Nat
  | .heading => none
  | .line _ => none
  | .free limit => some limit

/-- What is known to stand behind the label. -/
def behind : Kind → List Char
  | .heading => ['\n']
  | .line _ => []
  | .free _ => []

end Kind

/-- A row: a label, and a item behind it. -/
structure Row (E : Type) where
  label : List Char
  kind : Kind
  item : Item E

variable {E : Type}

namespace Row

/-- The text of an event is as the kind of the row says. -/
def Fits (row : Row E) (event : E) : Prop :=
  row.kind.Allows (row.item.text event)

/-- A row without a text. -/
def heading (label : String) : Row E := ⟨label.toList, .heading, .empty⟩

/-- A row with a text in its line. -/
def solid (label : String) (item : Item E) : Row E := ⟨label.toList, .line 1, item⟩

/-- A row with a text in its line that may be empty. -/
def word (label : String) (text : E → List Char) : Row E := ⟨label.toList, .line 0, .word text⟩

/-- A row with a free text. -/
def free (label : String) (limit : Nat) (item : Item E) : Row E := ⟨label.toList, .free limit, item⟩

/-- The line of an event, or what stands for it when the text is free. -/
def printed (row : Row E) (event : E) : List Char :=
  row.label ++ (row.item.text event ++ ['\n'])

@[simp] theorem fits_heading (label : String) (event : E) : (heading label).Fits event := rfl

@[simp] theorem fits_solid {label : String} {item : Item E} {event : E} (solid : item.Solid event) :
    (Row.solid label item).Fits event :=
  ⟨solid.1, List.length_pos_iff.mpr solid.2⟩

@[simp] theorem fits_word {label : String} {text : E → List Char} {event : E} (single : '\n' ∉ text event) :
    (word label text).Fits event :=
  ⟨single, Nat.zero_le _⟩

@[simp] theorem fits_free {label : String} {limit : Nat} {item : Item E} {event : E}
    (short : (item.text event).length ≤ limit) : (free label limit item).Fits event :=
  short

end Row

/-- Rows for an event. -/
def rowsFor (rows : List (Row E)) (event : E) : List (Row E × E) :=
  rows.map fun row => (row, event)

/-- What rows print. -/
def printedRows (lines : List (Row E × E)) : List Char :=
  lines.flatMap fun line => line.1.printed line.2

/-- The report of an event. -/
def report (rows : List (Row E)) (event : E) : List Char :=
  printedRows (rowsFor rows event)

/-- The reports of events one after another. -/
def log (rows : List (Row E)) (events : List E) : List Char :=
  printedRows (events.flatMap (rowsFor rows))

/-- What a report shows, row by row. -/
def shown (rows : List (Row E)) (event : E) : List (List Nat) :=
  rows.map fun row => row.item.shown event

@[simp] theorem report_nil (event : E) : report [] event = [] := rfl

@[simp] theorem report_cons (row : Row E) (rows : List (Row E)) (event : E) :
    report (row :: rows) event = row.printed event ++ report rows event := rfl

@[simp] theorem printed_heading (label : String) (event : E) :
    (Row.heading label).printed event = label.toList ++ ['\n'] := rfl

@[simp] theorem printedRows_append (lines lines' : List (Row E × E)) :
    printedRows (lines ++ lines') = printedRows lines ++ printedRows lines' :=
  List.flatMap_append

theorem log_eq_flatMap (rows : List (Row E)) (events : List E) :
    log rows events = events.flatMap (report rows) :=
  List.flatMap_assoc

/-! ### Echoes -/

/-- Two texts differ at a place that both have. -/
def differ : List Char → List Char → Bool
  | first :: rest, other :: rest' => first ≠ other || differ rest rest'
  | _, _ => false

theorem append_ne_of_differ {first other rest rest' : List Char} (differs : differ first other = true) :
    first ++ rest ≠ other ++ rest' := by
  induction first generalizing other with
  | nil => cases differs
  | cons char first ih =>
      cases other with
      | nil => cases differs
      | cons char' other =>
          intro same
          obtain ⟨sameChar, later⟩ := List.cons.inj same
          rcases Bool.or_eq_true_iff.mp differs with here | there
          · exact absurd sameChar (of_decide_eq_true here)
          · exact ih there later

/-- The characters that a row takes up at least, with the line end before it. -/
def Row.span (row : Row E) : Nat :=
  1 + row.label.length + row.kind.least

/-- No line behind the first one begins with a label, as far as a distance reaches. -/
def noEcho (label : List Char) : Nat → List (Row E) → Bool
  | _, [] => false
  | distance, row :: rest =>
      row.kind.limit?.isNone && decide ('\n' ∉ row.label) &&
        (decide (distance < row.span) ||
          (rest.head?.any fun next => differ label (next.label ++ next.kind.behind)) &&
            noEcho label (distance - row.span) rest)

/-- Two lists that agree as far as both go. -/
def Agree (first second : List (Row E)) : Prop :=
  first <+: second ∨ second <+: first

theorem Agree.tail {first second : Row E} {rest rest' : List (Row E)}
    (agree : Agree (first :: rest) (second :: rest')) : first = second ∧ Agree rest rest' := by
  rcases agree with before | before
  · exact ⟨(List.cons_prefix_cons.mp before).1, Or.inl (List.cons_prefix_cons.mp before).2⟩
  · exact ⟨(List.cons_prefix_cons.mp before).1.symm, Or.inr (List.cons_prefix_cons.mp before).2⟩

/-- Where a line ends the next label can only stand behind it. -/
theorem gap_past_line {block rest gap tail : List Char} (single : '\n' ∉ block)
    (same : block ++ '\n' :: rest = gap ++ '\n' :: tail) :
    ∃ gap', gap = block ++ gap' ∧ '\n' :: rest = gap' ++ '\n' :: tail := by
  rcases List.append_eq_append_iff.mp same with ⟨gap', longer, later⟩ | ⟨between, shorter, later⟩
  · exact ⟨gap', longer, later⟩
  · cases between with
    | nil => exact ⟨[], by rw [shorter, List.append_nil, List.append_nil], later.symm⟩
    | cons first between =>
        obtain ⟨rfl, _⟩ := List.cons.inj later
        exact absurd (shorter ▸ List.mem_append_right gap List.mem_cons_self) single

/-- What a row prints begins with its label and with what is known to stand behind it. -/
theorem printed_begins {row : Row E} {event : E} (fits : row.Fits event) :
    ∃ rest, row.printed event = (row.label ++ row.kind.behind) ++ rest := by
  rcases row with ⟨label, kind, item⟩
  cases kind with
  | heading =>
      have none : item.text event = [] := fits
      exact ⟨[], by simp [Row.printed, none, Kind.behind]⟩
  | line least => exact ⟨_, by simp [Row.printed, Kind.behind]; rfl⟩
  | free limit => exact ⟨_, by simp [Row.printed, Kind.behind]; rfl⟩

/-- The lines of a row that is not free. -/
theorem single_of_fits {row : Row E} {event : E} (fits : row.Fits event) (bound : row.kind.limit? = none)
    (plain : '\n' ∉ row.label) :
    '\n' ∉ row.label ++ row.item.text event ∧ row.span ≤ 1 + (row.label ++ row.item.text event).length := by
  rcases row with ⟨label, kind, item⟩
  rw [List.mem_append, not_or, List.length_append, Row.span]
  cases kind with
  | heading =>
      have none : item.text event = [] := fits
      rw [none]
      exact ⟨⟨plain, List.not_mem_nil⟩, Nat.le_refl _⟩
  | line least =>
      obtain ⟨single, enough⟩ : '\n' ∉ item.text event ∧ least ≤ (item.text event).length := fits
      refine ⟨⟨plain, single⟩, ?_⟩
      change 1 + label.length + least ≤ 1 + (label.length + (item.text event).length)
      omega
  | free limit => cases bound

/-- Rows whose first label differs from another do not begin with it. -/
theorem starts_otherwise {label tail : List Char} {known : List (Row E)} {lines : List (Row E × E)}
    (differs : (known.head?.any fun next => differ label (next.label ++ next.kind.behind)) = true)
    (agree : Agree known (lines.map Prod.fst)) (fits : ∀ line ∈ lines, line.1.Fits line.2) :
    label ++ tail ≠ printedRows lines := by
  cases known with
  | nil => cases differs
  | cons next known =>
      cases lines with
      | nil =>
          intro same
          obtain ⟨rfl, _⟩ := List.append_eq_nil_iff.mp same
          cases differs
      | cons line lines =>
          obtain ⟨rfl, _⟩ := agree.tail
          rcases printed_begins (fits line List.mem_cons_self) with ⟨rest, begins⟩
          rw [printedRows, List.flatMap_cons, begins, List.append_assoc]
          exact append_ne_of_differ differs

/-- **No label stands where it does not belong**: behind a line end before rows whose labels were checked, the
text does not go on later as it would behind a shorter text. -/
theorem no_echo {label : List Char} {distance : Nat} {known : List (Row E)}
    (checked : noEcho label distance known = true) {lines : List (Row E × E)}
    (agree : Agree known (lines.map Prod.fst)) (fits : ∀ line ∈ lines, line.1.Fits line.2)
    {gap tail : List Char} (near : gap.length ≤ distance)
    (same : '\n' :: printedRows lines = gap ++ '\n' :: (label ++ tail)) : gap = [] := by
  induction known generalizing distance lines gap with
  | nil => cases checked
  | cons row known ih =>
      cases gap with
      | nil => rfl
      | cons first gap =>
          obtain ⟨_, same⟩ := List.cons.inj same
          cases lines with
          | nil => simp [printedRows] at same
          | cons line lines =>
              obtain ⟨rfl, agreeing⟩ := agree.tail
              have fitsLater : ∀ line ∈ lines, line.1.Fits line.2 :=
                fun line member => fits line (List.mem_cons_of_mem _ member)
              rw [noEcho, Bool.and_eq_true, Bool.and_eq_true, decide_eq_true_eq, Option.isNone_iff_eq_none,
                Bool.or_eq_true, decide_eq_true_eq, Bool.and_eq_true] at checked
              obtain ⟨⟨bound, plain⟩, reached⟩ := checked
              obtain ⟨single, long⟩ := single_of_fits (fits line List.mem_cons_self) bound plain
              have split : (line.1.label ++ line.1.item.text line.2) ++ '\n' :: printedRows lines =
                  gap ++ '\n' :: (label ++ tail) := by
                simpa [printedRows, Row.printed] using same
              obtain ⟨gap', rfl, later⟩ := gap_past_line single split
              rw [List.length_cons, List.length_append] at near
              rcases reached with far | ⟨differs, checked⟩
              · omega
              · have empty := ih checked agreeing fitsLater (by omega) later
                rw [empty, List.nil_append] at later
                -- the place is the start of a later line, which begins otherwise
                exact absurd (List.cons.inj later).2.symm (starts_otherwise differs agreeing fitsLater)

/-! ### Logs -/

/-- No free text of these rows, the last ones of a report, reaches a place where its own end could stand. -/
def unambiguous (rows : List (Row E)) : List (Row E) → Bool
  | [] => true
  | row :: rest =>
      (row.kind.limit?.all fun limit =>
        rest.head?.any fun next => noEcho next.label limit (rest ++ rows)) && unambiguous rows rest

/-- The rows of the reports that follow begin like the rows of one more report. -/
theorem agree_rows (rest rows : List (Row E)) (event : E) (events : List E) :
    Agree (rest ++ rows) ((rowsFor rest event ++ events.flatMap (rowsFor rows)).map Prod.fst) := by
  have names (rows : List (Row E)) (event : E) : (rowsFor rows event).map Prod.fst = rows := by
    rw [rowsFor, List.map_map]
    exact List.map_id rows
  rw [List.map_append, names]
  cases events with
  | nil =>
      right
      simp
  | cons event events =>
      left
      rw [List.flatMap_cons, List.map_append, names, ← List.append_assoc]
      exact List.prefix_append _ _

section Determined

variable {rows : List (Row E)} {events events' : List E}
  (fits : ∀ event ∈ events, ∀ row ∈ rows, row.Fits event)
  (fits' : ∀ event ∈ events', ∀ row ∈ rows, row.Fits event)

include fits

/-- Every row that is still to be printed fits. -/
theorem fits_rowsFor {rest : List (Row E)} {event : E} (fitsRest : ∀ row ∈ rest, row.Fits event) :
    ∀ line ∈ rowsFor rest event ++ events.flatMap (rowsFor rows), line.1.Fits line.2 := by
  intro line member
  rcases List.mem_append.mp member with now | later
  · obtain ⟨row, found, rfl⟩ := List.mem_map.mp now
    exact fitsRest row found
  · obtain ⟨event, among, printed⟩ := List.mem_flatMap.mp later
    obtain ⟨row, found, rfl⟩ := List.mem_map.mp printed
    exact fits event among row found

include fits'

/-- The text of a row and what follows it are determined. -/
theorem text_append_inj {row : Row E} {rest : List (Row E)} {event event' : E}
    (checked : unambiguous rows (row :: rest) = true)
    (fitsNow : ∀ row' ∈ row :: rest, row'.Fits event) (fitsNow' : ∀ row' ∈ row :: rest, row'.Fits event')
    (same : row.item.text event ++ '\n' :: printedRows (rowsFor rest event ++ events.flatMap (rowsFor rows)) =
      row.item.text event' ++ '\n' ::
        printedRows (rowsFor rest event' ++ events'.flatMap (rowsFor rows))) :
    row.item.text event = row.item.text event' := by
  have fitsRow := fitsNow row List.mem_cons_self
  have fitsRow' := fitsNow' row List.mem_cons_self
  have later := fits_rowsFor fits fun row' member => fitsNow row' (List.mem_cons_of_mem _ member)
  have later' := fits_rowsFor fits' fun row' member => fitsNow' row' (List.mem_cons_of_mem _ member)
  rw [Row.Fits] at fitsRow fitsRow'
  cases kind : row.kind with
  | heading =>
      rw [kind] at fitsRow fitsRow'
      exact Eq.trans fitsRow (Eq.symm fitsRow')
  | line least =>
      rw [kind] at fitsRow fitsRow'
      exact (Item.separated_inj fitsRow.1 fitsRow'.1 same).1
  | free limit =>
      rw [kind] at fitsRow fitsRow'
      rw [unambiguous, kind, Bool.and_eq_true] at checked
      cases rest with
      | nil => cases checked.1
      | cons next rest =>
          have quiet : noEcho next.label limit (next :: rest ++ rows) = true := checked.1
          have begins (event : E) (events : List E) :
              printedRows (rowsFor (next :: rest) event ++ events.flatMap (rowsFor rows)) =
                next.label ++ (next.item.text event ++ '\n' ::
                  printedRows (rowsFor rest event ++ events.flatMap (rowsFor rows))) := by
            simp [printedRows, rowsFor, Row.printed]
          rcases List.append_eq_append_iff.mp same with ⟨gap, longer, after⟩ | ⟨gap, longer, after⟩
          · have near : gap.length ≤ limit := by
              have bound : (row.item.text event').length ≤ limit := fitsRow'
              rw [longer, List.length_append] at bound
              omega
            rw [begins event' events'] at after
            rw [longer, no_echo quiet (agree_rows _ _ event events) later near after, List.append_nil]
          · have near : gap.length ≤ limit := by
              have bound : (row.item.text event).length ≤ limit := fitsRow
              rw [longer, List.length_append] at bound
              omega
            rw [begins event events] at after
            rw [longer, no_echo quiet (agree_rows _ _ event' events') later' near after, List.append_nil]

/-- What is left of a report, and the reports after it, are determined. -/
theorem rest_append_inj {rest : List (Row E)} {event event' : E} (checked : unambiguous rows rest = true)
    (fitsNow : ∀ row ∈ rest, row.Fits event) (fitsNow' : ∀ row ∈ rest, row.Fits event')
    (same : printedRows (rowsFor rest event ++ events.flatMap (rowsFor rows)) =
      printedRows (rowsFor rest event' ++ events'.flatMap (rowsFor rows))) :
    shown rest event = shown rest event' ∧ log rows events = log rows events' := by
  induction rest with
  | nil => exact ⟨rfl, same⟩
  | cons row rest ih =>
      have split (event : E) (events : List E) :
          printedRows (rowsFor (row :: rest) event ++ events.flatMap (rowsFor rows)) =
            row.label ++ (row.item.text event ++ '\n' ::
              printedRows (rowsFor rest event ++ events.flatMap (rowsFor rows))) := by
        simp [printedRows, rowsFor, Row.printed]
      rw [split, split, List.append_cancel_left_eq] at same
      have sameText := text_append_inj fits fits' checked fitsNow fitsNow' same
      rw [sameText, List.append_cancel_left_eq] at same
      obtain ⟨sameRest, sameLog⟩ := ih (Bool.and_eq_true_iff.mp checked).2
        (fun row' member => fitsNow row' (List.mem_cons_of_mem _ member))
        (fun row' member => fitsNow' row' (List.mem_cons_of_mem _ member)) (List.cons.inj same).2
      have sameShown := row.item.reads sameText
      refine ⟨?_, sameLog⟩
      rw [shown, shown, List.map_cons, List.map_cons, sameShown]
      exact congrArg _ sameRest

end Determined

/-- Reports of rows are not empty. -/
theorem report_ne_nil {rows : List (Row E)} (some : rows ≠ []) (event : E) : report rows event ≠ [] := by
  obtain ⟨row, rest, rfl⟩ := List.exists_cons_of_ne_nil some
  simp [report, rowsFor, printedRows, Row.printed]

/-- **A log determines what its reports show**, one by one and row by row. -/
theorem log_determines {rows : List (Row E)} (some : rows ≠ []) (checked : unambiguous rows rows = true)
    {events events' : List E} (fits : ∀ event ∈ events, ∀ row ∈ rows, row.Fits event)
    (fits' : ∀ event ∈ events', ∀ row ∈ rows, row.Fits event) (same : log rows events = log rows events') :
    events.map (shown rows) = events'.map (shown rows) := by
  induction events generalizing events' with
  | nil =>
      cases events' with
      | nil => rfl
      | cons event' events' =>
          rw [log_eq_flatMap, log_eq_flatMap, List.flatMap_cons] at same
          exact absurd (List.append_eq_nil_iff.mp same.symm).1 (report_ne_nil some event')
  | cons event events ih =>
      cases events' with
      | nil =>
          rw [log_eq_flatMap, log_eq_flatMap, List.flatMap_cons] at same
          exact absurd (List.append_eq_nil_iff.mp same).1 (report_ne_nil some event)
      | cons event' events' =>
          have fitsLater : ∀ event ∈ events, ∀ row ∈ rows, row.Fits event :=
            fun other member => fits other (List.mem_cons_of_mem _ member)
          have fitsLater' : ∀ event ∈ events', ∀ row ∈ rows, row.Fits event :=
            fun other member => fits' other (List.mem_cons_of_mem _ member)
          obtain ⟨here, later⟩ := rest_append_inj fitsLater fitsLater' checked
            (fits event List.mem_cons_self) (fits' event' List.mem_cons_self) same
          rw [List.map_cons, List.map_cons, here, ih fitsLater fitsLater' later]

end ReportRows
