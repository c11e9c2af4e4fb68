import SqlComposer.Event

/-! # Shown statements are cut between two characters

    Events show a statement up to a number of bytes, and a character has up to four of them.  The
    place of the cut is looked for from the limit backwards.

    * A place in a text comes with the proof that no character is on both sides of it, so whatever
      the search stops at can be cut at.
    * The search passes no place (`le_lastCut`), and the text up to a place grows with the place.
      So what is in front of the cut is the longest text that fits (`cutText_longest`).
    * There is only one longest text (`LongestWithin.unique`). -/

namespace SqlComposer

/-- A text of whole characters in front of a given one with at most `limit` bytes, such that every
    text in front that fits is in front of it. -/
structure LongestWithin (limit : Nat) (s front : String) : Prop where
  inFront : ∃ rest, s = front ++ rest
  fits : front.utf8ByteSize ≤ limit
  longest : ∀ other rest, s = other ++ rest → other.utf8ByteSize ≤ limit →
    ∃ more, front = other ++ more

/-- Two longest texts are in front of each other. -/
theorem LongestWithin.unique {limit : Nat} {s a b : String} (ha : LongestWithin limit s a)
    (hb : LongestWithin limit s b) : a = b := by
  obtain ⟨restA, hra⟩ := ha.inFront
  obtain ⟨restB, hrb⟩ := hb.inFront
  obtain ⟨more, hab⟩ := ha.longest b restB hrb hb.fits
  obtain ⟨others, hba⟩ := hb.longest a restA hra ha.fits
  -- neither has fewer bytes than the other one
  have hsizeA := congrArg String.utf8ByteSize hab
  have hsizeB := congrArg String.utf8ByteSize hba
  rw [String.utf8ByteSize_append] at hsizeA hsizeB
  have hmore : more = "" := String.utf8ByteSize_eq_zero_iff.1 (by omega)
  rw [hab, hmore, String.append_empty]

/-! ## The place of the cut -/

/-- The search does not leave the limit. -/
theorem lastCut_le (s : String) (limit : Nat) : (lastCut s limit).offset.byteIdx ≤ limit := by
  induction limit with
  | zero => exact Nat.le_refl 0
  | succ limit ih =>
      rw [lastCut]
      split
      · exact Nat.le_refl _
      · exact Nat.le_succ_of_le ih

/-- The search passes no place. -/
theorem le_lastCut {s : String} {limit : Nat} (place : s.Pos)
    (h : place.offset.byteIdx ≤ limit) : place ≤ lastCut s limit := by
  induction limit with
  | zero => exact h
  | succ limit ih =>
      rw [lastCut]
      split
      · exact h
      · -- the number of bytes that was passed is not that of a place
        rename_i hn
        have hne : place.offset.byteIdx ≠ limit + 1 := by
          intro he
          have hp : place.offset = ⟨limit + 1⟩ := String.Pos.Raw.ext he
          exact hn (hp ▸ place.isValid)
        exact ih (by omega)

/-! ## The text in front of it -/

/-- A text that fits is its own longest text. -/
theorem LongestWithin.self {limit : Nat} {s : String} (h : s.utf8ByteSize ≤ limit) :
    LongestWithin limit s s where
  inFront := ⟨"", (String.append_empty).symm⟩
  fits := h
  longest := fun _ rest hs _ => ⟨rest, hs⟩

/-- The text in front of the last place within the limit is the longest one. -/
theorem LongestWithin.sliceTo (limit : Nat) (s : String) :
    LongestWithin limit s (s.sliceTo (lastCut s limit)).copy where
  inFront := ⟨_, (lastCut s limit).splits.eq_append⟩
  fits := by
    have hoff := (lastCut s limit).splits.offset_eq_rawEndPos
    have hle := lastCut_le s limit
    rw [hoff] at hle
    exact hle
  longest := by
    intro other rest hs hfit
    -- the end of the other text is a place, which the search has not passed
    have hother := String.Pos.splits_ofEqAppend hs
    have hle : String.Pos.ofEqAppend hs ≤ lastCut s limit := by
      refine le_lastCut _ ?_
      rw [hother.offset_eq_rawEndPos]
      exact hfit
    obtain ⟨more, hmore, -⟩ :=
      (String.Pos.Splits.le_iff_exists_eq_append hother (lastCut s limit).splits).1 hle
    exact ⟨more, hmore⟩

theorem cutText_longest (limit : Nat) (s : String) : LongestWithin limit s (cutText limit s) := by
  rw [cutText]
  split
  · rename_i h
    exact LongestWithin.self h
  · exact LongestWithin.sliceTo limit s

/-- **Statements are cut between two characters, and as late as the limit allows.**  For every text
    and every limit, a cut text is the longest one of whole characters that fits.  Without a limit
    a statement is shown whole, with a limit that it keeps too, and else as its longest text with
    three points behind it. -/
theorem shownSql_is_longest (limit : Nat) (s : String) :
    (∀ front, LongestWithin limit s front ↔ front = cutText limit s) ∧
      shownSql none s = s ∧
      shownSql (some limit) s =
        if s.utf8ByteSize ≤ limit then s else cutText limit s ++ "..." := by
  refine ⟨fun front => ⟨fun h => h.unique (cutText_longest limit s), ?_⟩, rfl, rfl⟩
  rintro rfl
  exact cutText_longest limit s

/-- A cut inside a character of two bytes goes back in front of it; a limit of one character more
    keeps it. -/
example : cutText 2 "aé日" = "a" ∧ cutText 3 "aé日" = "aé" ∧ cutText 0 "aé日" = "" := by
  decide +kernel

end SqlComposer
