import MTConnect.Activity.Exposition
import MTConnect.Proofs.Text.Visible
import MTConnect.Text.Split

namespace MTConnect.Exposition

/-!
# What a collector reads

A collector cuts an exposition at its line feeds and reads every line by
itself: a line of help, a line with a type, or a sample, which is a name, labels
in braces if there are any, a blank, and a value. The values of labels are
unescaped on the way. Whatever the labels hold, a line that was written is read
as what it was written for.
-/

/-- What one line says to a collector. -/
inductive Statement where
  | help (name help : String)
  | kind (name : String) (kind : Kind)
  | sample (name : String) (labels : List Label) (value : String)
  deriving Repr, DecidableEq

/-- What a line is written to say. -/
def Line.statement : Line → Statement
  | .help family => .help family.name family.help
  | .kind family => .kind family.name family.kind
  | .sample family labels value => .sample family.name labels value

/-- Whether a character may stand in a name. -/
def isNameChar (character : Char) : Bool :=
  character.isAlphanum || character == '_' || character == ':'

/-- A name at the front of a text, and what follows it; no name begins with a digit. -/
def readName? (text : List Char) : Option (String × List Char) :=
  let (name, rest) := text.span isNameChar
  match name with
  | [] => none
  | first :: _ =>
      if first.isDigit then none else some (String.ofList name, rest)

/-- Put a character in front of what was read. -/
def consRead (character : Char) (read? : Option (List Char × List Char)) :
    Option (List Char × List Char) :=
  read?.map fun read => (character :: read.1, read.2)

/-- The unescaped text up to a closing quote, and what follows the quote. -/
def readQuoted? : List Char → Option (List Char × List Char)
  | [] => none
  | '\x22' :: rest => some ([], rest)
  | '\\' :: '\\' :: rest => consRead '\\' (readQuoted? rest)
  | '\\' :: '\x22' :: rest => consRead '\x22' (readQuoted? rest)
  | '\\' :: 'n' :: rest => consRead '\n' (readQuoted? rest)
  | '\\' :: _ => none
  | character :: rest => consRead character (readQuoted? rest)

/-- A label at the front of a text, and what follows it. -/
def readLabel? (text : List Char) : Option (Label × List Char) := do
  let (name, afterName) ← readName? text
  let quoted ← Text.dropLead? ['=', '\x22'] afterName
  let (value, rest) ← readQuoted? quoted
  pure (⟨name, String.ofList value⟩, rest)

/-- Labels up to the closing brace, at most as many as the bound, and what follows. -/
def readLabelsUpTo? : Nat → List Char → Option (List Label × List Char)
  | 0, _ => none
  | bound + 1, text =>
      match readLabel? text with
      | some (label, '\x7d' :: rest) => some ([label], rest)
      | some (label, ',' :: rest) =>
          (readLabelsUpTo? bound rest).map fun read =>
            (label :: read.1, read.2)
      | _ => none

/-- Labels in braces, if there are any, and what follows; a text has fewer labels than characters. -/
def readLabels? : List Char → Option (List Label × List Char)
  | '\x7b' :: rest => readLabelsUpTo? rest.length rest
  | text => some ([], text)

/-- A value, which is one word behind a blank. -/
def readValue? : List Char → Option String
  | ' ' :: value =>
      if value ≠ [] ∧ value.all (0x20 < ·.toNat) then
        some (String.ofList value)
      else
        none
  | _ => none

/-- A name, labels if there are any, and a value. -/
def readSample? (line : List Char) : Option Statement := do
  let (name, afterName) ← readName? line
  let (labels, afterLabels) ← readLabels? afterName
  let value ← readValue? afterLabels
  pure (.sample name labels value)

/-- A name and, behind a blank, a text. -/
def readHelp? (text : List Char) : Option Statement := do
  let (name, afterName) ← readName? text
  let help ← Text.dropLead? [' '] afterName
  pure (.help name (String.ofList help))

/-- A name and, behind a blank, the spelling of a kind. -/
def readKind? (text : List Char) : Option Statement := do
  let (name, afterName) ← readName? text
  let spelling ← Text.dropLead? [' '] afterName
  let kind ←
    [Kind.counter, Kind.gauge].find? fun kind => kind.name.toList = spelling
  pure (.kind name kind)

/-- One line; a line that begins with a number sign is no sample. -/
def readLine? (line : List Char) : Option Statement :=
  match Text.dropLead? "# HELP ".toList line with
  | some text => readHelp? text
  | none =>
      match Text.dropLead? "# TYPE ".toList line with
      | some text => readKind? text
      | none => readSample? line

/-- All lines of an exposition, of which the last one has to be ended. -/
def readText? (text : String) : Option (List Statement) :=
  let pieces := Text.splitAt '\n' text.toList
  if pieces.getLast? = some [] then
    pieces.dropLast.mapM readLine?
  else
    none

/-- Whether a text can be read as a name. -/
def isName (name : String) : Bool :=
  match name.toList with
  | [] => false
  | first :: rest => !first.isDigit && (first :: rest).all isNameChar

/-- What makes a line legible: names that are names, and values that are words. -/
def Line.Legible : Line → Prop
  | .help family => isName family.name ∧ '\n' ∉ family.help.toList
  | .kind family => isName family.name
  | .sample family labels value =>
      isName family.name ∧ (∀ label ∈ labels, isName label.name) ∧
        value.toList ≠ [] ∧ Text.Visible value.toList

/-! ## Lines that say what they are written for -/

/-- An escaped character is read as the character itself. -/
theorem readQuoted?_escapeChar (character : Char) (text : List Char) :
    readQuoted? (escapeChar character ++ text) =
      consRead character (readQuoted? text) := by
  unfold escapeChar
  split
  next => rfl
  next => rfl
  next => rfl
  next notBackslash notQuote _ =>
    rw [List.singleton_append, readQuoted?]
    · exact fun isQuote => notQuote isQuote
    · exact fun _ isBackslash => absurd isBackslash notBackslash
    · exact fun _ isBackslash => absurd isBackslash notBackslash
    · exact fun _ isBackslash => absurd isBackslash notBackslash
    · exact fun isBackslash => absurd isBackslash notBackslash

/-- An escaped value is read up to its closing quote, whatever it holds. -/
theorem readQuoted?_escaped (value rest : List Char) :
    readQuoted? (value.flatMap escapeChar ++ '\x22' :: rest) =
      some (value, rest) := by
  induction value with
  | nil => rfl
  | cons character others inductionHypothesis =>
      rw [List.flatMap_cons, List.append_assoc, readQuoted?_escapeChar,
        inductionHypothesis]
      rfl

section

variable {name : String} {label : Label} {labels : List Label}

/-- A name has a first character, which is no digit, and only characters of names. -/
theorem exists_eq_cons_of_isName (fits : isName name) :
    ∃ first rest,
      name.toList = first :: rest ∧
        first.isDigit = false ∧
        ∀ character ∈ name.toList, isNameChar character = true := by
  unfold isName at fits
  split at fits
  next => simp at fits
  next first rest shape =>
    rw [Bool.and_eq_true, Bool.not_eq_true', List.all_eq_true] at fits
    exact ⟨first, rest, shape, fits.1, shape ▸ fits.2⟩

/-- A name is read off the front of a text that does not go on with it. -/
theorem readName?_append
    (fits : isName name)
    {rest : List Char}
    (ends : ∀ character ∈ rest.head?, isNameChar character = false) :
    readName? (name.toList ++ rest) = some (name, rest) := by
  obtain ⟨first, others, shape, noDigit, nameChars⟩ :=
    exists_eq_cons_of_isName fits
  have taken : (name.toList ++ rest).takeWhile isNameChar = name.toList := by
    rw [List.takeWhile_append_of_pos nameChars]
    cases rest with
    | nil => simp
    | cons character _ => simp [ends character rfl]
  have dropped : (name.toList ++ rest).dropWhile isNameChar = rest := by
    rw [List.dropWhile_append_of_pos nameChars]
    cases rest with
    | nil => simp
    | cons character _ => simp [ends character rfl]
  unfold readName?
  rw [List.span_eq_takeWhile_dropWhile, taken, dropped]
  simp only [shape, noDigit]
  rw [← shape, String.ofList_toList]
  rfl

/-- A label is read with the value that it was written for. -/
theorem readLabel?_text (fits : isName label.name) (rest : List Char) :
    readLabel? (label.text.toList ++ rest) = some (label, rest) := by
  have textEq :
      label.text.toList ++ rest =
        label.name.toList ++ (['=', '\x22'] ++
          (label.value.toList.flatMap escapeChar ++ '\x22' :: rest)) := by
    simp [Label.text, escapeLabel]
  rw [textEq, readLabel?, readName?_append fits (by simp [isNameChar])]
  simp only [Option.bind_eq_bind, Option.bind_some, Text.dropLead?_append,
    readQuoted?_escaped, Option.pure_def, String.ofList_toList]

/-- The texts of labels, with a comma between any two. -/
def joined (labels : List Label) : List Char :=
  [','].intercalate (labels.map fun label => label.text.toList)

theorem joined_cons_cons (second : Label) :
    joined (label :: second :: labels) =
      label.text.toList ++ ',' :: joined (second :: labels) := by
  simp [joined, List.intercalate]

theorem toList_labelText_cons :
    (labelText (label :: labels)).toList =
      '\x7b' :: (joined (label :: labels) ++ ['\x7d']) := by
  simp [labelText, joined, Function.comp_def]

/-- There are at most as many labels as characters. -/
theorem length_le_joined (labels : List Label) :
    labels.length ≤ (joined labels).length := by
  induction labels with
  | nil => exact Nat.zero_le _
  | cons first rest inductionHypothesis =>
      cases rest with
      | nil =>
          simp only [joined, List.intercalate, Label.text, List.map_cons,
            List.map_nil, List.intersperse_singleton, List.flatten_cons,
            List.flatten_nil, List.append_nil, String.toList_append,
            List.length_append]
          simp
      | cons second others =>
          rw [joined_cons_cons, List.length_append, List.length_cons]
          simp only [List.length_cons] at inductionHypothesis ⊢
          omega

/-- Labels are read up to the closing brace. -/
theorem readLabelsUpTo?_joined
    {bound : Nat}
    (nonempty : labels ≠ [])
    (fits : ∀ label ∈ labels, isName label.name)
    (enough : labels.length ≤ bound)
    (rest : List Char) :
    readLabelsUpTo? bound (joined labels ++ '\x7d' :: rest) =
      some (labels, rest) := by
  induction labels generalizing bound with
  | nil => exact absurd rfl nonempty
  | cons first others inductionHypothesis =>
      obtain ⟨firstFits, othersFit⟩ := List.forall_mem_cons.mp fits
      cases bound with
      | zero => simp at enough
      | succ bound =>
          cases others with
          | nil =>
              have joinedEq : joined [first] = first.text.toList := by
                simp [joined, List.intercalate]
              rw [joinedEq, readLabelsUpTo?, readLabel?_text firstFits]
              rfl
          | cons second more =>
              have enoughLeft : (second :: more).length ≤ bound := by
                simpa using enough
              have readMore :=
                inductionHypothesis (by simp) othersFit enoughLeft
              rw [joined_cons_cons, List.append_assoc, readLabelsUpTo?,
                readLabel?_text firstFits]
              simp only [List.cons_append, readMore]
              rfl

/-- Written labels are read back, be there none or many. -/
theorem readLabels?_labelText
    (fits : ∀ label ∈ labels, isName label.name)
    {rest : List Char}
    (noBrace : rest.head? ≠ some '\x7b') :
    readLabels? ((labelText labels).toList ++ rest) = some (labels, rest) := by
  cases labels with
  | nil =>
      cases rest with
      | nil => rfl
      | cons character others =>
          have notBrace : character ≠ '\x7b' := by simpa using noBrace
          simp [labelText, readLabels?, notBrace]
  | cons first others =>
      have enough :
          (first :: others).length ≤
            (joined (first :: others) ++ '\x7d' :: rest).length := by
        have := length_le_joined (first :: others)
        rw [List.length_append]
        omega
      rw [toList_labelText_cons, List.cons_append, List.append_assoc,
        List.singleton_append, readLabels?]
      exact readLabelsUpTo?_joined (by simp) fits enough rest

/-- A visible value behind a blank is read back. -/
theorem readValue?_word
    {value : String}
    (nonempty : value.toList ≠ [])
    (visible : Text.Visible value.toList) :
    readValue? (' ' :: value.toList) = some value := by
  have isVisible : value.toList.all (0x20 < ·.toNat) = true := by
    rw [List.all_eq_true]
    exact fun character member => decide_eq_true (visible character member)
  rw [readValue?, if_pos ⟨nonempty, isVisible⟩, String.ofList_toList]

end

theorem readHelp?_text
    {name : String}
    (fits : isName name)
    (help : String) :
    readHelp? (name.toList ++ ' ' :: help.toList) = some (.help name help) := by
  rw [readHelp?, readName?_append fits (by simp [isNameChar])]
  simp [Text.dropLead?]

/-- The kind of a name is read back. -/
theorem readKind?_text
    {name : String}
    (fits : isName name)
    (kind : Kind) :
    readKind? (name.toList ++ ' ' :: kind.name.toList) =
      some (.kind name kind) := by
  have spelled :
      [Kind.counter, Kind.gauge].find?
          (fun candidate => candidate.name.toList = kind.name.toList) =
        some kind := by
    cases kind with
    | counter => decide
    | gauge => decide
  rw [readKind?, readName?_append fits (by simp [isNameChar])]
  simp [Text.dropLead?, spelled]

/-- A sample is read with the labels and the value that it was written for. -/
theorem readSample?_text
    {name value : String}
    {labels : List Label}
    (fits : isName name)
    (labelsFit : ∀ label ∈ labels, isName label.name)
    (nonempty : value.toList ≠ [])
    (visible : Text.Visible value.toList) :
    readSample?
        (name.toList ++ ((labelText labels).toList ++ ' ' :: value.toList)) =
      some (.sample name labels value) := by
  have ends :
      ∀ character ∈
          ((labelText labels).toList ++ ' ' :: value.toList).head?,
        isNameChar character = false := by
    cases labels with
    | nil => simp [labelText, isNameChar]
    | cons first others => simp [labelText, isNameChar]
  have readLabels :
      readLabels? ((labelText labels).toList ++ ' ' :: value.toList) =
        some (labels, ' ' :: value.toList) :=
    readLabels?_labelText labelsFit (by simp)
  rw [readSample?, readName?_append fits ends]
  simp only [Option.bind_eq_bind, Option.bind_some, readLabels,
    readValue?_word nonempty visible, Option.pure_def]

/-- A legible line is read as what it was written to say. -/
theorem readLine?_text {line : Line} (legible : line.Legible) :
    readLine? (line.text "").toList = some line.statement := by
  cases line with
  | help family =>
      have textEq :
          (Line.text "" (.help family)).toList =
            "# HELP ".toList ++ (family.name.toList ++ ' ' :: family.help.toList) := by
        simp [Line.text]
      rw [textEq, readLine?, Text.dropLead?_append]
      exact readHelp?_text legible.1 family.help
  | kind family =>
      have textEq :
          (Line.text "" (.kind family)).toList =
            "# TYPE ".toList ++ (family.name.toList ++ ' ' :: family.kind.name.toList) := by
        simp [Line.text]
      have noHelp :
          ∀ rest, Text.dropLead? "# HELP ".toList ("# TYPE ".toList ++ rest) = none :=
        fun rest => rfl
      rw [textEq, readLine?, noHelp, Text.dropLead?_append]
      exact readKind?_text legible family.kind
  | sample family labels value =>
      obtain ⟨fits, labelsFit, nonempty, visible⟩ := legible
      obtain ⟨first, others, shape, _, nameChars⟩ :=
        exists_eq_cons_of_isName fits
      -- No name begins with the number sign of help and types.
      have notSign : '#' ≠ first := by
        rintro rfl
        have := nameChars '#' (by simp [shape])
        simp [isNameChar] at this
      have textEq :
          (Line.text "" (.sample family labels value)).toList =
            family.name.toList ++
              ((labelText labels).toList ++ ' ' :: value.toList) := by
        simp [Line.text]
      have noComment :
          ∀ leadRest,
            Text.dropLead? ('#' :: leadRest)
                (family.name.toList ++
                  ((labelText labels).toList ++ ' ' :: value.toList)) =
              none := by
        intro leadRest
        rw [shape, List.cons_append]
        exact Text.dropLead?_of_ne notSign leadRest _
      have helpLead : "# HELP ".toList = '#' :: " HELP ".toList := by
        decide
      have typeLead : "# TYPE ".toList = '#' :: " TYPE ".toList := by
        decide
      rw [textEq, readLine?, helpLead, typeLead, noComment, noComment]
      exact readSample?_text fits labelsFit nonempty visible

/-- A text in which every occurrence of a character is replaced. -/
def replaced (target : Char) (replacement text : List Char) : List Char :=
  text.flatMap fun character =>
    if character = target then replacement else [character]

/-- A text is escaped at one go as by three replacements, the backslash first. -/
theorem escapeLabel_eq_replaced (value : String) :
    (escapeLabel value).toList =
      replaced '\n' ['\\', 'n']
        (replaced '\x22' ['\\', '\x22']
          (replaced '\\' ['\\', '\\'] value.toList)) := by
  rw [escapeLabel, String.toList_ofList, replaced, replaced, replaced,
    List.flatMap_assoc, List.flatMap_assoc]
  refine congrArg (List.flatMap · value.toList) (funext fun character => ?_)
  unfold escapeChar
  split
  next => rfl
  next => rfl
  next => rfl
  next noBackslash noQuote noLineFeed =>
    rw [if_neg noBackslash, List.flatMap_singleton, if_neg noQuote,
      List.flatMap_singleton, if_neg noLineFeed]

/-- No line feed is left in the value of a label. -/
theorem lineFeed_not_mem_escapeLabel (value : String) :
    '\n' ∉ (escapeLabel value).toList := by
  rw [escapeLabel, String.toList_ofList]
  intro member
  obtain ⟨character, _, inEscaped⟩ := List.mem_flatMap.mp member
  unfold escapeChar at inEscaped
  split at inEscaped
  next => simp at inEscaped
  next => simp at inEscaped
  next => simp at inEscaped
  next _ _ notLineFeed =>
    exact notLineFeed (List.mem_singleton.mp inEscaped).symm

/-- No line feed is part of a name. -/
theorem lineFeed_not_mem_name
    {name : String}
    (fits : isName name) :
    '\n' ∉ name.toList := by
  obtain ⟨_, _, _, _, nameChars⟩ := exists_eq_cons_of_isName fits
  intro member
  have := nameChars '\n' member
  simp [isNameChar] at this

/-- Labels do not break a line, whatever their values hold. -/
theorem lineFeed_not_mem_labelText
    {labels : List Label}
    (fits : ∀ label ∈ labels, isName label.name) :
    '\n' ∉ (labelText labels).toList := by
  have inLabel :
      ∀ label ∈ labels, '\n' ∉ label.text.toList := by
    intro label member
    simp [Label.text, lineFeed_not_mem_name (fits label member),
      lineFeed_not_mem_escapeLabel]
  have inJoined : '\n' ∉ joined labels := by
    clear fits
    induction labels with
    | nil => simp [joined, List.intercalate]
    | cons first rest inductionHypothesis =>
        obtain ⟨notFirst, notOthers⟩ := List.forall_mem_cons.mp inLabel
        cases rest with
        | nil => simpa [joined, List.intercalate] using notFirst
        | cons second others =>
            simp [joined_cons_cons, notFirst, inductionHypothesis notOthers]
  cases labels with
  | nil => simp [labelText]
  | cons first others => simp [toList_labelText_cons, inJoined]

/-- Whatever its labels hold, a legible line is one line. -/
theorem lineFeed_not_mem_text {line : Line} (legible : line.Legible) :
    '\n' ∉ (line.text "").toList := by
  cases line with
  | help family =>
      simp [Line.text, lineFeed_not_mem_name legible.1, legible.2]
  | kind family =>
      have spelled : '\n' ∉ family.kind.name.toList := by
        cases family.kind with
        | counter => decide
        | gauge => decide
      simp [Line.text, lineFeed_not_mem_name legible, spelled]
  | sample family labels value =>
      obtain ⟨fits, labelsFit, _, visible⟩ := legible
      have inWord : '\n' ∉ value.toList := fun member =>
        absurd (visible '\n' member) (by decide)
      simp [Line.text, lineFeed_not_mem_name fits,
        lineFeed_not_mem_labelText labelsFit, inWord]

/-- Legible lines are found again when the text is cut at its line feeds. -/
theorem splitAt_lines
    {lines : List Line}
    (legible : ∀ line ∈ lines, line.Legible) :
    Text.splitAt '\n'
        (lines.flatMap fun line => (line.text "").toList ++ ['\n']) =
      (lines.map fun line => (line.text "").toList) ++ [[]] := by
  induction lines with
  | nil => rfl
  | cons line rest inductionHypothesis =>
      obtain ⟨first, others⟩ := List.forall_mem_cons.mp legible
      rw [List.flatMap_cons, List.append_assoc, List.singleton_append,
        Text.splitAt_append (lineFeed_not_mem_text first),
        inductionHypothesis others]
      rfl

/-- Legible lines, each of them ended, are read as what they were written to say. -/
theorem readText?_of_legible
    {lines : List Line}
    (legible : ∀ line ∈ lines, line.Legible) :
    readText? (String.join (lines.map fun line => line.text "" ++ "\n")) =
      some (lines.map Line.statement) := by
  have textEq :
      (String.join (lines.map fun line => line.text "" ++ "\n")).toList =
        lines.flatMap fun line => (line.text "").toList ++ ['\n'] := by
    simp [List.flatMap_map]
  have readLines :
      (lines.map fun line => (line.text "").toList).mapM readLine? =
        some (lines.map Line.statement) := by
    clear textEq
    induction lines with
    | nil => rfl
    | cons line rest inductionHypothesis =>
        obtain ⟨first, others⟩ := List.forall_mem_cons.mp legible
        rw [List.map_cons, List.mapM_cons, readLine?_text first,
          inductionHypothesis others]
        rfl
  unfold readText?
  rw [textEq, splitAt_lines legible]
  simpa using readLines

end MTConnect.Exposition
