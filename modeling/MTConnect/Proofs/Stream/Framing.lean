import MTConnect.Proofs.Json.OneLine
import MTConnect.Proofs.Text.Utf8
import MTConnect.Stream.Multipart

namespace MTConnect.Multipart

/-!
# Reading a body of parts

The bytes of a body are taken apart in two ways. One reader looks at the
header lines of a part and takes as many bytes as they announce. The other
knows nothing of lengths: it cuts the bytes into lines and looks for the lines
between the parts. Both find the same documents, those that were framed,
because a document takes one line and begins with a brace.
-/

/-- The bytes of a text. -/
def bytes (text : String) : List UInt8 :=
  Text.Utf8.encode text.toList

/-- The bytes at the end of a line. -/
def lineEndBytes : List UInt8 :=
  [0x0D, 0x0A]

/-- The line between two parts. -/
def delimiter : List UInt8 :=
  bytes ("--" ++ boundary)

/-- The line after the last part. -/
def finalDelimiter : List UInt8 :=
  bytes ("--" ++ boundary ++ "--")

/-- The whole body of some frames: their parts, and one closing boundary. -/
def streamed (frames : List Frame) : List UInt8 :=
  frames.flatMap (fun frame => bytes (part frame)) ++ bytes closing

/-- The document of a frame as it is framed. -/
def bodyOf (frame : Frame) : List UInt8 :=
  bytes (frameJson frame).render

/-- The body of some frames begins with the part of the first one. -/
theorem streamed_cons (frame : Frame) (rest : List Frame) :
    streamed (frame :: rest) = bytes (part frame) ++ streamed rest := by
  simp [streamed]

/-! ## A reader that trusts the announced lengths -/

/-- The first line and what follows its end; none if no line ends. -/
def cutLine? : List UInt8 → Option (List UInt8 × List UInt8)
  | [] => none
  | 0x0D :: 0x0A :: rest => some ([], rest)
  | byte :: rest => (cutLine? rest).map fun cut => (byte :: cut.1, cut.2)

/-- What follows some expected bytes. -/
def skip? (expected text : List UInt8) : Option (List UInt8) :=
  if expected <+: text then some (text.drop expected.length) else none

/-- A number in decimal digits. -/
def number? (digits : List UInt8) : Option Nat :=
  Text.decimalValue? (digits.map fun byte => Char.ofNat byte.toNat)

/-- What follows a line is shorter than the text. -/
theorem length_of_cutLine?
    {text line rest : List UInt8}
    (cut : cutLine? text = some (line, rest)) :
    rest.length < text.length := by
  fun_induction cutLine? text generalizing line with
  | case1 => simp at cut
  | case2 rest =>
      obtain ⟨_, rfl⟩ := Prod.mk.inj (Option.some.inj cut)
      simp only [List.length_cons]
      omega
  | case3 byte rest _ inductionHypothesis =>
      obtain ⟨later, cutRest, same⟩ := Option.map_eq_some_iff.mp cut
      obtain ⟨_, rfl⟩ := Prod.mk.inj same
      have : later.2.length < rest.length := inductionHypothesis cutRest
      simp only [List.length_cons]
      omega

/-- The lines before the first empty one, and what follows that. -/
def cutHead? (text : List UInt8) : Option (List (List UInt8) × List UInt8) :=
  match _ : cutLine? text with
  | none => none
  | some ([], rest) => some ([], rest)
  | some (line, rest) =>
      (cutHead? rest).map fun head => (line :: head.1, head.2)
termination_by text.length
decreasing_by exact length_of_cutLine? ‹_›

/-- How a head is read, by its first line. -/
theorem cutHead?_of_cutLine?
    {text line rest : List UInt8}
    (cut : cutLine? text = some (line, rest)) :
    cutHead? text =
      if line = [] then
        some ([], rest)
      else
        (cutHead? rest).map fun head => (line :: head.1, head.2) := by
  rw [cutHead?]
  split
  next noLine => simp [cut] at noLine
  next emptyLine =>
    obtain ⟨rfl, rfl⟩ :=
      Prod.mk.inj (Option.some.inj (cut.symm.trans emptyLine))
    rfl
  next notEmpty aLine =>
    obtain ⟨rfl, rfl⟩ := Prod.mk.inj (Option.some.inj (cut.symm.trans aLine))
    rw [if_neg notEmpty]

/-- The length that a header line announces, the first such line counting. -/
def announcedLength? (head : List (List UInt8)) : Option Nat :=
  head.findSome? fun line =>
    (skip? (bytes "Content-Length: ") line).bind number?

/-- The body after a delimiter line, by its announced length, and what follows it. -/
def cutBody? (text : List UInt8) : Option (List UInt8 × List UInt8) := do
  let (head, rest) ← cutHead? text
  let length ← announcedLength? head
  let after ← skip? lineEndBytes (rest.drop length)
  pure (rest.take length, after)

/-- What follows expected bytes is no longer than the text. -/
theorem length_of_skip?
    {expected text rest : List UInt8}
    (skipped : skip? expected text = some rest) :
    rest.length ≤ text.length := by
  unfold skip? at skipped
  split at skipped
  next =>
    rw [← Option.some.inj skipped, List.length_drop]
    omega
  next => simp at skipped

/-- What follows a head is no longer than the text. -/
theorem length_of_cutHead?
    {text rest : List UInt8}
    {head : List (List UInt8)}
    (cut : cutHead? text = some (head, rest)) :
    rest.length ≤ text.length := by
  fun_induction cutHead? text generalizing head with
  | case1 => simp at cut
  | case2 text later isCut =>
      obtain ⟨_, rfl⟩ := Prod.mk.inj (Option.some.inj cut)
      exact Nat.le_of_lt (length_of_cutLine? isCut)
  | case3 text line later _ isCut inductionHypothesis =>
      obtain ⟨found, cutRest, same⟩ := Option.map_eq_some_iff.mp cut
      obtain ⟨_, rfl⟩ := Prod.mk.inj same
      have shorter := length_of_cutLine? isCut
      have : found.2.length ≤ later.length := inductionHypothesis cutRest
      omega

/-- What follows a part is no longer than the text. -/
theorem length_of_cutBody?
    {text body rest : List UInt8}
    (cut : cutBody? text = some (body, rest)) :
    rest.length ≤ text.length := by
  unfold cutBody? at cut
  obtain ⟨⟨head, later⟩, cutHead, cut⟩ := Option.bind_eq_some_iff.mp cut
  obtain ⟨length, _, cut⟩ := Option.bind_eq_some_iff.mp cut
  obtain ⟨after, skipped, same⟩ := Option.bind_eq_some_iff.mp cut
  obtain ⟨_, rfl⟩ := Prod.mk.inj (Option.some.inj same)
  have headShorter := length_of_cutHead? cutHead
  have bodyShorter := length_of_skip? skipped
  simp only [List.length_drop] at bodyShorter
  omega

/-- The bodies of all parts by their announced lengths, up to the end of the bytes. -/
def readByLength? (text : List UInt8) : Option (List (List UInt8)) :=
  match _ : cutLine? text with
  | none => none
  | some (line, rest) =>
      if line = finalDelimiter then
        if rest = [] then some [] else none
      else if line = delimiter then
        match _ : cutBody? rest with
        | none => none
        | some (body, after) => (readByLength? after).map (body :: ·)
      else
        none
termination_by text.length
decreasing_by
  exact Nat.lt_of_le_of_lt (length_of_cutBody? ‹_›) (length_of_cutLine? ‹_›)

/-- How a body of parts is read by lengths, by its first line. -/
theorem readByLength?_of_cutLine?
    {text line rest : List UInt8}
    (cut : cutLine? text = some (line, rest)) :
    readByLength? text =
      if line = finalDelimiter then
        if rest = [] then some [] else none
      else if line = delimiter then
        (cutBody? rest).bind fun found =>
          (readByLength? found.2).map (found.1 :: ·)
      else
        none := by
  rw [readByLength?]
  split
  next noLine => simp [cut] at noLine
  next aLine =>
    obtain ⟨rfl, rfl⟩ := Prod.mk.inj (Option.some.inj (cut.symm.trans aLine))
    split
    next => rfl
    next =>
      split
      next =>
        split
        next noBody => simp [noBody]
        next aBody => simp [aBody]
      next => rfl

/-! ## A reader that looks for the lines between the parts -/

/-- Put a byte in front of the first line. -/
def consLine (byte : UInt8) : List (List UInt8) → List (List UInt8)
  | [] => [[byte]]
  | line :: rest => (byte :: line) :: rest

/-- The lines of a text, the last one being what no line end follows. -/
def splitLines : List UInt8 → List (List UInt8)
  | [] => [[]]
  | 0x0D :: 0x0A :: rest => [] :: splitLines rest
  | byte :: rest => consLine byte (splitLines rest)

/--
The lines before the first delimiter, and the sections of lines after each
delimiter; none if the final delimiter is missing.
-/
def sections? :
    List (List UInt8) → Option (List (List UInt8) × List (List (List UInt8)))
  | [] => none
  | line :: rest =>
      if line = finalDelimiter then
        some ([], [])
      else
        (sections? rest).map fun found =>
          if line = delimiter then
            ([], found.1 :: found.2)
          else
            (line :: found.1, found.2)

/-- The body of a section, which is what follows its first empty line. -/
def sectionBody? (lines : List (List UInt8)) : Option (List UInt8) :=
  match lines.dropWhile (· ≠ []) with
  | [] => none
  | _ :: body => some (lineEndBytes.intercalate body)

/-- The bodies of all parts by the lines between them. -/
def readByDelimiter? (text : List UInt8) : Option (List (List UInt8)) := do
  let found ← sections? (splitLines text)
  found.2.mapM sectionBody?

/-! ## The lines of a part -/

section

variable {line rest : List UInt8}

/-- A line without a carriage return is cut off as it is. -/
theorem cutLine?_append
    (clean : 0x0D ∉ line)
    (rest : List UInt8) :
    cutLine? (line ++ (lineEndBytes ++ rest)) = some (line, rest) := by
  induction line with
  | nil => rfl
  | cons byte others inductionHypothesis =>
      rw [List.mem_cons, not_or] at clean
      have goesOn :
          cutLine? (byte :: (others ++ (lineEndBytes ++ rest))) =
            (cutLine? (others ++ (lineEndBytes ++ rest))).map
              fun cut => (byte :: cut.1, cut.2) := by
        rw [cutLine?]
        intro _ isReturn
        exact absurd isReturn.symm clean.1
      rw [List.cons_append, goesOn, inductionHypothesis clean.2]
      rfl

/-- A line without a carriage return is one of the lines of a text. -/
theorem splitLines_append
    (clean : 0x0D ∉ line)
    (rest : List UInt8) :
    splitLines (line ++ (lineEndBytes ++ rest)) = line :: splitLines rest := by
  induction line with
  | nil => rfl
  | cons byte others inductionHypothesis =>
      rw [List.mem_cons, not_or] at clean
      have goesOn :
          splitLines (byte :: (others ++ (lineEndBytes ++ rest))) =
            consLine byte (splitLines (others ++ (lineEndBytes ++ rest))) := by
        rw [splitLines]
        intro _ isReturn
        exact absurd isReturn.symm clean.1
      rw [List.cons_append, goesOn, inductionHypothesis clean.2]
      rfl

/-- A line that begins with some byte is not empty. -/
theorem ne_nil_of_head?
    {byte : UInt8}
    (head : line.head? = some byte) :
    line ≠ [] := by
  rintro rfl
  simp at head

/-- Expected bytes at the front are skipped. -/
theorem skip?_append (expected rest : List UInt8) :
    skip? expected (expected ++ rest) = some rest := by
  simp [skip?]

end

/-- The bytes of two texts follow each other. -/
theorem bytes_append (front back : String) :
    bytes (front ++ back) = bytes front ++ bytes back := by
  simp [bytes, Text.Utf8.encode_append]

/-- A text has as many bytes as its size says. -/
theorem length_bytes (text : String) : (bytes text).length = text.utf8ByteSize := by
  rw [bytes, Text.Utf8.length_encode, String.ofList_toList]

/-- A text of one line has no carriage return among its bytes. -/
theorem return_not_mem_bytes
    {text : String}
    (unbroken : Json.Unbroken text.toList) :
    0x0D ∉ bytes text := by
  intro member
  have inText : '\r' ∈ text.toList :=
    Text.Utf8.mem_of_mem_encode (by decide) member
  exact absurd (unbroken '\r' inText) (by decide)

/-- The header line that gives the media type. -/
def typeLine : List UInt8 :=
  bytes ("Content-Type: " ++ documentType)

/-- The header line that gives the length of the body of a frame. -/
def lengthLine (frame : Frame) : List UInt8 :=
  bytes ("Content-Length: " ++ toString (bodyOf frame).length)

variable {frame : Frame}

/-- The bytes of a part, line by line. -/
theorem bytes_part (frame : Frame) (rest : List UInt8) :
    bytes (part frame) ++ rest =
      delimiter ++ (lineEndBytes ++ (typeLine ++ (lineEndBytes ++
        (lengthLine frame ++ (lineEndBytes ++ ([] ++ (lineEndBytes ++
          (bodyOf frame ++ (lineEndBytes ++ rest))))))))) := by
  have endEq : bytes lineEnd = lineEndBytes := by decide
  have partEq :
      part frame =
        "--" ++ boundary ++ lineEnd ++ "Content-Type: " ++ documentType ++
          lineEnd ++ "Content-Length: " ++
          toString (frameJson frame).render.utf8ByteSize ++ lineEnd ++
          lineEnd ++ (frameJson frame).render ++ lineEnd := rfl
  rw [partEq, lengthLine, bodyOf, length_bytes]
  simp only [bytes_append, endEq, delimiter, typeLine, List.append_assoc,
    List.nil_append]

/-- The document of a frame is an object. -/
theorem exists_write_frameJson (frame : Frame) :
    ∃ rest, Json.write (frameJson frame) = '\x7b' :: rest := by
  cases frame with
  | data document => exact ⟨_, rfl⟩
  | heartbeat header endSequence => exact ⟨_, rfl⟩
  | failure document => exact ⟨_, rfl⟩

/-- A document begins with a brace, so it is neither empty nor a delimiter. -/
theorem head?_bodyOf (frame : Frame) : (bodyOf frame).head? = some 0x7B := by
  obtain ⟨rest, writeEq⟩ := exists_write_frameJson frame
  simp [bodyOf, bytes, Json.render, writeEq, Text.Utf8.encode_cons,
    Text.Utf8.encodeChar]

/-- A document takes one line. -/
theorem return_not_mem_bodyOf (frame : Frame) : 0x0D ∉ bodyOf frame :=
  return_not_mem_bytes (by simpa [Json.render] using Json.unbroken_write _)

/-- The announced length takes one line. -/
theorem return_not_mem_lengthLine (frame : Frame) : 0x0D ∉ lengthLine frame := by
  refine return_not_mem_bytes ?_
  rw [String.toList_append, Text.toList_toString]
  exact .append (.word (by decide)) (Json.unbroken_of_visible (.decimal _))

/-- The header line with the length begins with a C. -/
theorem head?_lengthLine (frame : Frame) : (lengthLine frame).head? = some 0x43 := by
  rw [lengthLine, bytes_append, List.head?_append]
  have isLetter : (bytes "Content-Length: ").head? = some 0x43 := by
    decide
  rw [isLetter]
  rfl

/-- A number in decimal digits is read back from its bytes. -/
theorem number?_decimal (value : Nat) :
    number? (bytes (toString value)) = some value := by
  have ascii :
      ∀ digit ∈ Text.decimal value, digit.toNat < 0x80 := by
    intro digit member
    obtain ⟨_, atMost⟩ :=
      Text.isDigit_iff.mp (Text.isDigit_of_mem_decimal member)
    omega
  rw [number?, bytes, Text.toList_toString, Text.Utf8.map_encode ascii,
    Text.decimalValue?_decimal]

/-- A part announces the length of its body. -/
theorem announcedLength?_part (frame : Frame) :
    announcedLength? [typeLine, lengthLine frame] =
      some (bodyOf frame).length := by
  have otherField : skip? (bytes "Content-Length: ") typeLine = none := by
    decide
  rw [announcedLength?, List.findSome?_cons, otherField, Option.bind_none,
    List.findSome?_cons, lengthLine, bytes_append, skip?_append,
    Option.bind_some, number?_decimal]

/-- The closing boundary is the final delimiter on a line of its own. -/
theorem bytes_closing : bytes closing = finalDelimiter ++ (lineEndBytes ++ []) := by
  decide

/-! The fixed lines, none of which is broken, begin with a hyphen or a letter. -/

theorem return_not_mem_delimiter : 0x0D ∉ delimiter := by
  decide

theorem return_not_mem_finalDelimiter : 0x0D ∉ finalDelimiter := by
  decide

theorem return_not_mem_typeLine : 0x0D ∉ typeLine := by
  decide

theorem delimiter_ne_finalDelimiter : delimiter ≠ finalDelimiter := by
  decide

theorem head?_delimiter : delimiter.head? = some 0x2D := by
  decide

theorem head?_finalDelimiter : finalDelimiter.head? = some 0x2D := by
  decide

theorem head?_typeLine : typeLine.head? = some 0x43 := by
  decide

/-- The head of a part is its two header lines. -/
theorem cutHead?_part (frame : Frame) (rest : List UInt8) :
    cutHead?
        (typeLine ++ (lineEndBytes ++ (lengthLine frame ++ (lineEndBytes ++
          ([] ++ (lineEndBytes ++ rest)))))) =
      some ([typeLine, lengthLine frame], rest) := by
  have lengthClean := return_not_mem_lengthLine frame
  rw [cutHead?_of_cutLine? (cutLine?_append return_not_mem_typeLine _),
    if_neg (ne_nil_of_head? head?_typeLine),
    cutHead?_of_cutLine? (cutLine?_append lengthClean _),
    if_neg (ne_nil_of_head? (head?_lengthLine frame)),
    cutHead?_of_cutLine? (cutLine?_append (by simp) _), if_pos rfl]
  rfl

/-- The length that a part announces takes its body and nothing else. -/
theorem cutBody?_part (frame : Frame) (rest : List UInt8) :
    cutBody?
        (typeLine ++ (lineEndBytes ++ (lengthLine frame ++ (lineEndBytes ++
          ([] ++ (lineEndBytes ++
            (bodyOf frame ++ (lineEndBytes ++ rest)))))))) =
      some (bodyOf frame, rest) := by
  rw [cutBody?, cutHead?_part]
  simp [announcedLength?_part, skip?_append]

/-- By their announced lengths the framed documents are read back. -/
theorem readByLength?_streamed (frames : List Frame) :
    readByLength? (streamed frames) = some (frames.map bodyOf) := by
  induction frames with
  | nil =>
      rw [streamed, List.flatMap_nil, List.nil_append, bytes_closing,
        readByLength?_of_cutLine? (cutLine?_append return_not_mem_finalDelimiter _)]
      rfl
  | cons frame rest inductionHypothesis =>
      rw [streamed_cons, bytes_part,
        readByLength?_of_cutLine? (cutLine?_append return_not_mem_delimiter _),
        if_neg delimiter_ne_finalDelimiter, if_pos rfl, cutBody?_part,
        Option.bind_some, inductionHypothesis]
      rfl

/-- The five lines of a part. -/
theorem splitLines_part (frame : Frame) (rest : List UInt8) :
    splitLines (bytes (part frame) ++ rest) =
      delimiter :: typeLine :: lengthLine frame :: [] :: bodyOf frame ::
        splitLines rest := by
  rw [bytes_part, splitLines_append return_not_mem_delimiter,
    splitLines_append return_not_mem_typeLine,
    splitLines_append (return_not_mem_lengthLine frame),
    splitLines_append (by simp),
    splitLines_append (return_not_mem_bodyOf frame)]

/-- A line that does not begin with a hyphen is part of a section. -/
theorem sections?_cons
    {line : List UInt8}
    (noHyphen : line.head? ≠ some 0x2D)
    (rest : List (List UInt8)) :
    sections? (line :: rest) =
      (sections? rest).map fun found => (line :: found.1, found.2) := by
  have notFinal : line ≠ finalDelimiter := by
    rintro rfl
    exact noHyphen head?_finalDelimiter
  have notMiddle : line ≠ delimiter := by
    rintro rfl
    exact noHyphen head?_delimiter
  simp [sections?, notFinal, notMiddle]

/-- No line of a part but the first one can be taken for a delimiter. -/
theorem sections?_part
    (frame : Frame)
    {rest : List (List UInt8)}
    {later : List (List (List UInt8))}
    (found : sections? rest = some ([], later)) :
    sections?
        (delimiter :: typeLine :: lengthLine frame :: [] :: bodyOf frame ::
          rest) =
      some ([], [typeLine, lengthLine frame, [], bodyOf frame] :: later) := by
  rw [sections?, if_neg delimiter_ne_finalDelimiter, sections?_cons (by simp [head?_typeLine]),
    sections?_cons (by simp [head?_lengthLine]), sections?_cons (by simp),
    sections?_cons (by simp [head?_bodyOf]), found]
  simp

/-- The body of a section is the document of its frame. -/
theorem sectionBody?_part (frame : Frame) :
    sectionBody? [typeLine, lengthLine frame, [], bodyOf frame] =
      some (bodyOf frame) := by
  simp [sectionBody?, ne_nil_of_head? head?_typeLine,
    ne_nil_of_head? (head?_lengthLine frame)]

/-- By the lines between them the framed documents are read back. -/
theorem readByDelimiter?_streamed (frames : List Frame) :
    readByDelimiter? (streamed frames) = some (frames.map bodyOf) := by
  have found :
      sections? (splitLines (streamed frames)) =
        some ([], frames.map fun frame =>
          [typeLine, lengthLine frame, [], bodyOf frame]) := by
    induction frames with
    | nil =>
        rw [streamed, List.flatMap_nil, List.nil_append, bytes_closing,
          splitLines_append return_not_mem_finalDelimiter]
        simp [sections?]
    | cons frame rest inductionHypothesis =>
        rw [streamed_cons, splitLines_part,
          sections?_part frame inductionHypothesis]
        rfl
  have bodies :
      sectionBody? ∘ (fun frame =>
          [typeLine, lengthLine frame, [], bodyOf frame]) =
        (pure <| bodyOf ·) :=
    funext sectionBody?_part
  calc
    readByDelimiter? (streamed frames) =
        (frames.map fun frame =>
          [typeLine, lengthLine frame, [], bodyOf frame]).mapM
            sectionBody? := by
      rw [readByDelimiter?, found]
      rfl
    _ = some (frames.map bodyOf) := by
      rw [List.mapM_map, bodies, List.mapM_pure]
      rfl

end MTConnect.Multipart
