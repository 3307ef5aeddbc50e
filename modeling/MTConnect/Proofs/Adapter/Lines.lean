import MTConnect.Adapter.Feed

namespace MTConnect.Feed

/-!
# The pieces of a feed

A line ends at a line feed and nowhere else. Where the reads of a connection
cut its bytes makes no difference: a feed takes the same pieces, the lines in
order and then what is left after the last of them.
-/

/-- Some bytes are some lines, each ended by a line feed, and an unended rest. -/
structure Lines (bytes : List UInt8) (lines : List (List UInt8)) (tail : List UInt8) : Prop where
  joined : bytes = lines.flatMap (· ++ [lineFeed]) ++ tail
  unbroken : ∀ line ∈ lines, lineFeed ∉ line
  unended : lineFeed ∉ tail

/-- What a feed takes one after the other; an unended rest counts if there is one. -/
def pieces (bytes : List UInt8) : List (List UInt8) :=
  let (lines, tail) := cutLines bytes
  if tail.isEmpty then lines else lines ++ [tail]

theorem cutLines_cons_lineFeed (rest : List UInt8) :
    cutLines (lineFeed :: rest) =
      ([] :: (cutLines rest).1, (cutLines rest).2) := by
  simp [cutLines]

/-- A byte within a line joins the first line, or the rest if there is no line. -/
theorem cutLines_cons_of_ne
    {byte : UInt8}
    (differs : byte ≠ lineFeed)
    (rest : List UInt8) :
    cutLines (byte :: rest) =
      match (cutLines rest).1 with
      | [] => ([], byte :: (cutLines rest).2)
      | line :: others => ((byte :: line) :: others, (cutLines rest).2) := by
  cases shape : (cutLines rest).1 with
  | nil => simp [cutLines, differs, shape]
  | cons line others => simp [cutLines, differs, shape]

/-- Cutting the bytes finds their lines and their rest. -/
theorem lines_cutLines (bytes : List UInt8) :
    Lines bytes (cutLines bytes).1 (cutLines bytes).2 := by
  induction bytes with
  | nil => exact ⟨rfl, by simp [cutLines], by simp [cutLines]⟩
  | cons byte rest inductionHypothesis =>
      obtain ⟨joined, unbroken, unended⟩ := inductionHypothesis
      by_cases ends : byte = lineFeed
      · subst ends
        rw [cutLines_cons_lineFeed]
        refine ⟨?_, ?_, unended⟩
        · simpa using joined
        · simpa using unbroken
      · have within : lineFeed ≠ byte := Ne.symm ends
        rw [cutLines_cons_of_ne ends]
        cases shape : (cutLines rest).1 with
        | nil =>
            rw [shape] at joined
            refine ⟨by simpa using joined, by simp, ?_⟩
            simp [within, unended]
        | cons line others =>
            rw [shape] at joined unbroken
            refine ⟨by simpa using joined, ?_, unended⟩
            intro other member
            rcases List.mem_cons.mp member with isFirst | inOthers
            · subst isFirst
              simp [within, unbroken line List.mem_cons_self]
            · exact unbroken other (List.mem_cons_of_mem line inOthers)

/-- Bytes that come later go on with the rest of those before them. -/
theorem cutLines_append (early late : List UInt8) :
    cutLines (early ++ late) =
      ((cutLines early).1 ++ (cutLines ((cutLines early).2 ++ late)).1,
        (cutLines ((cutLines early).2 ++ late)).2) := by
  induction early with
  | nil => simp [cutLines]
  | cons byte rest inductionHypothesis =>
      rw [List.cons_append]
      by_cases ends : byte = lineFeed
      · subst ends
        rw [cutLines_cons_lineFeed, cutLines_cons_lineFeed,
          inductionHypothesis]
        rfl
      · rw [cutLines_cons_of_ne ends, cutLines_cons_of_ne ends,
          inductionHypothesis]
        cases shape : (cutLines rest).1 with
        | nil =>
            dsimp only
            rw [List.cons_append, cutLines_cons_of_ne ends]
            simp only [List.nil_append]
        | cons line others => simp

/-- There is no further line in the rest. -/
theorem cutLines_of_unended
    {tail : List UInt8}
    (unended : lineFeed ∉ tail) :
    cutLines tail = ([], tail) := by
  induction tail with
  | nil => rfl
  | cons byte rest inductionHypothesis =>
      rw [List.mem_cons, not_or] at unended
      rw [cutLines_cons_of_ne (Ne.symm unended.1),
        inductionHypothesis unended.2]

/-- The pieces are the lines first, and then those of what is not yet ended. -/
theorem pieces_append (early late : List UInt8) :
    pieces (early ++ late) =
      (cutLines early).1 ++ pieces ((cutLines early).2 ++ late) := by
  unfold pieces
  rw [cutLines_append]
  dsimp only
  split
  next => rfl
  next => rw [List.append_assoc]

/-- Pieces are taken up to the first fault, in two parts as in one. -/
theorem takeAll_append
    (feed : Feed)
    (early late : List (List UInt8)) :
    feed.takeAll (early ++ late) =
      match feed.takeAll early with
      | (some fault, after) => (some fault, after)
      | (none, after) => after.takeAll late := by
  induction early generalizing feed with
  | nil => rfl
  | cons piece rest inductionHypothesis =>
      rw [List.cons_append, takeAll, takeAll]
      split
      next => rfl
      next after _ => exact inductionHypothesis after

/-- However the bytes are cut into reads, a feed takes their pieces. -/
theorem takeChunks_eq
    (feed : Feed)
    {pending : List UInt8}
    (unended : lineFeed ∉ pending)
    {chunks : List (List UInt8)}
    (filled : ∀ chunk ∈ chunks, chunk ≠ []) :
    feed.takeChunks pending (chunks.map .bytes) =
      feed.takeAll (pieces (pending ++ chunks.flatten)) := by
  induction chunks generalizing feed pending with
  | nil =>
      rw [List.flatten_nil, List.append_nil, pieces,
        cutLines_of_unended unended]
      dsimp only
      rw [List.map_nil, takeChunks]
      split
      next => rfl
      next =>
        rw [List.nil_append, takeAll]
        split
        next fault after outcome => exact outcome
        next after outcome => exact outcome
  | cons chunk rest inductionHypothesis =>
      have restFilled : ∀ other ∈ rest, other ≠ [] := by
        intro other member
        exact filled other (List.mem_cons_of_mem chunk member)
      have tailUnended := (lines_cutLines (pending ++ chunk)).unended
      cases chunkShape : chunk with
      | nil => exact absurd chunkShape (filled chunk List.mem_cons_self)
      | cons byte more =>
          rw [← chunkShape, List.flatten_cons, ← List.append_assoc,
            pieces_append, takeAll_append, List.map_cons, chunkShape,
            takeChunks]
          · dsimp only
            rw [← chunkShape]
            cases feed.takeAll (cutLines (pending ++ chunk)).1 with
            | mk fault? after =>
                cases fault? with
                | some fault => rfl
                | none =>
                    exact inductionHypothesis after tailUnended restFilled
          · simp

end MTConnect.Feed
