import RecordAudit.Text.Blank

/-!
# The lines of a text

`EndedLines` says what the lines of a text are: a line ends at a line feed, with
a carriage return before the feed as part of the ending, and what follows the
last feed is a line if there is anything.  A carriage return anywhere else is a
character of its line.

`lines` divides a text at the feeds only.  What that leaves at the end of a line
is a blank, so it makes no difference to the lines that hold more than blanks
(`EndedLines.filledLines_eq`).

* `lines_append_feed` divides a text at any of its feeds.
* `lines_unlines` finds written lines again.
* `trim_append_blank` drops a blank at the end.
* `filledLines_append_feed` and `filledLines_of_not_mem` put the filled lines of
  a text together from those of its parts.
-/

namespace RecordAudit.Text

/-! ## Lines and their endings -/

/-- The lines of a text, without their endings. -/
inductive EndedLines : List Char → List (List Char) → Prop
  | nil : EndedLines [] []
  /-- The last line has no ending. -/
  | last {line : List Char} (hfeed : '\n' ∉ line) (hne : line ≠ []) : EndedLines line [line]
  | feed {line rest : List Char} {more : List (List Char)} (hfeed : '\n' ∉ line)
      (hreturn : line.getLast? ≠ some '\r') (h : EndedLines rest more) :
      EndedLines (line ++ '\n' :: rest) (line :: more)
  | returnFeed {line rest : List Char} {more : List (List Char)} (hfeed : '\n' ∉ line)
      (h : EndedLines rest more) : EndedLines (line ++ '\r' :: '\n' :: rest) (line :: more)

/-- One more character in front of a text begins a line, or goes to the first one. -/
theorem EndedLines.exists_cons (c : Char) {text : List Char} {ls : List (List Char)}
    (h : EndedLines text ls) : ∃ ls', EndedLines (c :: text) ls' := by
  by_cases hc : c = '\n'
  · rw [hc]
    exact ⟨[] :: ls, @EndedLines.feed [] text ls (by simp) (by simp) h⟩
  have hcons : ∀ line : List Char, '\n' ∉ line → '\n' ∉ c :: line :=
    fun line hfeed => by simp [hfeed, Ne.symm hc]
  cases h with
  | nil => exact ⟨[[c]], .last (hcons [] (by simp)) (by simp)⟩
  | last hfeed _ => exact ⟨[c :: text], .last (hcons text hfeed) (by simp)⟩
  | @feed line rest more hfeed hreturn h =>
    -- Only a carriage return right before the feed goes to the ending.
    cases line with
    | nil =>
      by_cases hc' : c = '\r'
      · rw [hc']
        exact ⟨[] :: more, @EndedLines.returnFeed [] rest more (by simp) h⟩
      · exact ⟨[c] :: more, @EndedLines.feed [c] rest more (hcons [] hfeed) (by simpa) h⟩
    | cons d line =>
      have hreturn' : (c :: d :: line).getLast? ≠ some '\r' := by
        rwa [List.getLast?_cons_cons]
      exact ⟨(c :: d :: line) :: more,
        @EndedLines.feed (c :: d :: line) rest more (hcons _ hfeed) hreturn' h⟩
  | @returnFeed line rest more hfeed h =>
    exact ⟨(c :: line) :: more, @EndedLines.returnFeed (c :: line) rest more (hcons _ hfeed) h⟩

/-- Every text has lines. -/
theorem exists_endedLines (text : List Char) : ∃ ls, EndedLines text ls := by
  induction text with
  | nil => exact ⟨[], .nil⟩
  | cons c rest ih =>
    obtain ⟨ls, h⟩ := ih
    exact h.exists_cons c

/-! ## Division at the feeds -/

theorem lines_ne_nil (text : List Char) : lines text ≠ [] := by
  cases text with
  | nil => simp [lines]
  | cons c rest =>
    rw [lines]
    split
    · simp
    · split <;> simp

theorem lines_append_feed (text rest : List Char) :
    lines (text ++ '\n' :: rest) = lines text ++ lines rest := by
  induction text with
  | nil => simp [lines]
  | cons c text ih =>
    rw [List.cons_append, lines, lines]
    by_cases hc : c = '\n'
    · rw [if_pos hc, if_pos hc, ih, List.cons_append]
    · rw [if_neg hc, if_neg hc, ih]
      cases h : lines text with
      | nil => exact absurd h (lines_ne_nil text)
      | cons line more => rfl

theorem lines_of_not_mem {line : List Char} (h : '\n' ∉ line) : lines line = [line] := by
  induction line with
  | nil => rfl
  | cons c rest ih =>
    have hc : c ≠ '\n' := fun hc => h (by simp [hc])
    rw [lines, if_neg hc, ih fun hrest => h (List.mem_cons_of_mem c hrest)]

/-- There is one line more than there are feeds. -/
theorem length_lines (text : List Char) : (lines text).length = text.count '\n' + 1 := by
  induction text with
  | nil => rfl
  | cons c rest ih =>
    rw [lines]
    by_cases hc : c = '\n'
    · rw [if_pos hc, List.length_cons, ih, hc, List.count_cons_self]
    · rw [if_neg hc, List.count_cons_of_ne hc, ← ih]
      cases h : lines rest with
      | nil => exact absurd h (lines_ne_nil rest)
      | cons line more => rfl

/-! ## Written lines -/

theorem unlines_cons (line : String) (ls : List String) :
    unlines (line :: ls) = line ++ "\n" ++ unlines ls := by
  rw [unlines, List.map_cons, String.join_cons]
  rfl

theorem unlines_append (ls more : List String) :
    unlines (ls ++ more) = unlines ls ++ unlines more := by
  rw [unlines, List.map_append, String.join_append]
  rfl

theorem toList_unlines (ls : List String) :
    (unlines ls).toList = ls.flatMap fun line => line.toList ++ ['\n'] := by
  simp [unlines, String.toList_join, List.flatMap_map]

/-- Lines without feeds are found again, and after the last feed there is an empty one. -/
theorem lines_unlines {ls : List String} (h : ∀ line ∈ ls, '\n' ∉ line.toList) :
    lines (unlines ls).toList = ls.map String.toList ++ [[]] := by
  rw [toList_unlines]
  induction ls with
  | nil => rfl
  | cons line rest ih =>
    rw [List.flatMap_cons, List.append_assoc, List.singleton_append, lines_append_feed,
      lines_of_not_mem (h line (.head rest)), ih fun l hl => h l (.tail line hl)]
    rfl

/-! ## Trimming -/

theorem trim_append_blank {c : Char} (hc : isBlank c = true) (line : List Char) :
    trim (line ++ [c]) = trim line := by
  have hend : ∀ l : List Char, trimEnd (l ++ [c]) = trimEnd l := fun l => by
    rw [trimEnd, List.reverse_append, List.reverse_singleton, List.singleton_append,
      List.dropWhile_cons_of_pos hc, trimEnd]
  rw [trim, trim, trimStart, trimStart, List.dropWhile_append]
  split
  · next hnone =>
    rw [List.isEmpty_iff.mp hnone, List.dropWhile_cons_of_pos hc, List.dropWhile_nil]
  · exact hend _

/-! ## Filled lines -/

/-- The filled lines on both sides of a feed. -/
theorem filledLines_append_feed (text rest : List Char) :
    filledLines (text ++ '\n' :: rest) = filledLines text ++ filledLines rest := by
  rw [filledLines, lines_append_feed, List.map_append, List.filter_append, filledLines,
    filledLines]

/-- A text without feeds is one line. -/
theorem filledLines_of_not_mem {line : List Char} (h : '\n' ∉ line) :
    filledLines line = [trim line].filter (· ≠ []) := by
  rw [filledLines, lines_of_not_mem h, List.map_singleton]

/-- The filled lines are the lines that hold more than blanks, each trimmed. -/
theorem EndedLines.filledLines_eq {text : List Char} {ls : List (List Char)}
    (h : EndedLines text ls) : filledLines text = (ls.map trim).filter (· ≠ []) := by
  induction h with
  | nil => rfl
  | last hfeed _ => exact filledLines_of_not_mem hfeed
  | feed hfeed _ _ ih =>
    rw [filledLines_append_feed, filledLines_of_not_mem hfeed, ih, ← List.filter_append]
    rfl
  | @returnFeed line rest more hfeed _ ih =>
    have hreturn : '\n' ∉ line ++ ['\r'] := by simp [hfeed]
    have htext : line ++ '\r' :: '\n' :: rest = (line ++ ['\r']) ++ '\n' :: rest := by simp
    rw [htext, filledLines_append_feed, filledLines_of_not_mem hreturn,
      trim_append_blank (by decide), ih, ← List.filter_append]
    rfl

end RecordAudit.Text
