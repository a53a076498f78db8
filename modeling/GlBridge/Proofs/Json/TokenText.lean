import GlBridge.Proofs.Json.NumberText

/-!
# Tokens are found again in their text

`Token.scan_spell`: the text of some tokens is scanned as these tokens, provided that no two
of them run together (`Token.Apart`). Words and numbers do not show where they end, so such a
token must be followed by one of another kind.

Hence the scanner, having read a token, need not know yet that it is complete. `Scanner.Settles`
says that it will notice with the next character that begins a token, or at the end of the
text.
-/

namespace GlBridge

/-! ### Strings -/

namespace Piece

/-- How a character of a string comes back: as itself, or as the unit of a numeric escape. -/
def ofChar (c : Char) : Piece :=
  if c.toNat < 0x20 ∧ c ∉ ['\x08', '\x0c', '\n', '\r', '\t'] then .unit c.toNat else .char c

/-- A unit that is no half of a pair is a character by itself. -/
theorem text_unit {n : Nat} (hhigh : isHigh n = false) (hlow : isLow n = false)
    (rest : List Piece) : text? (.unit n :: rest) = (text? rest).map (Char.ofNat n :: ·) := by
  match rest with
  | [] => simp [text?, hhigh, hlow]
  | .char c :: rest => simp [text?, hhigh, hlow]
  | .unit l :: rest => simp [text?, hhigh, hlow]

/-- **The pieces of a text give the text.** -/
theorem text_ofChar (cs : List Char) : text? (cs.map ofChar) = some cs := by
  induction cs with
  | nil => rfl
  | cons c cs ih =>
    rw [List.map_cons, ofChar]
    split
    · -- a control character is far from the halves of pairs
      rename_i h
      have hhigh : isHigh c.toNat = false := by
        simp only [isHigh, Bool.and_eq_false_imp, decide_eq_true_iff, decide_eq_false_iff_not]
        omega
      have hlow : isLow c.toNat = false := by
        simp only [isLow, Bool.and_eq_false_imp, decide_eq_true_iff, decide_eq_false_iff_not]
        omega
      rw [text_unit hhigh hlow, ih, Option.map_some, Char.ofNat_toNat]
    · -- any other character is a piece by itself
      rw [text?, ih, Option.map_some]

/-- A hexadecimal digit is read as what it was written for. -/
theorem hexDigit_digitChar {n : Nat} (h : n < 16) : hexDigit? n.digitChar = some n := by
  have hall : ∀ k : Fin 16, hexDigit? (Nat.digitChar k) = some k.val := by decide
  exact hall ⟨n, h⟩

end Piece

namespace Scanner

@[simp] theorem run_nil (st : Scanner × List Token) : run st [] = some st := rfl

/-- A text is read by its first character and then by the rest. -/
theorem run_cons (st : Scanner × List Token) (c : Char) (cs : List Char) :
    run st (c :: cs) = (step st c).bind fun st => run st cs := by
  rw [run]
  cases step st c <;> rfl

/-- And by its parts one after the other. -/
theorem run_append (st : Scanner × List Token) (xs ys : List Char) :
    run st (xs ++ ys) = (run st xs).bind fun st => run st ys := by
  induction xs generalizing st with
  | nil => rfl
  | cons c cs ih =>
    rw [List.cons_append, run_cons, run_cons]
    cases step st c with
    | none => rfl
    | some st => exact ih st

variable (done : List Token)

/-- In a string, the text of a character is read as its piece. -/
theorem run_spellChar (read : List Piece) (c : Char) :
    run (.string read, done) (Token.spellChar c) =
      some (.string (Piece.ofChar c :: read), done) := by
  unfold Token.spellChar
  split
  case h_8 hquote hslash hb hf hn hr ht =>
    -- a character without a short escape: a numeric one below the space, or the character itself
    split
    · rename_i hlow
      have hpiece : Piece.ofChar c = .unit c.toNat := by
        refine if_pos ⟨hlow, ?_⟩
        simp only [List.mem_cons, List.not_mem_nil, or_false, not_or]
        exact ⟨hb, hf, hn, hr, ht⟩
      have hfirst := Piece.hexDigit_digitChar (n := c.toNat / 16) (by omega)
      have hlast := Piece.hexDigit_digitChar (n := c.toNat % 16) (by omega)
      have hzero : Piece.hexDigit? '0' = some 0 := rfl
      rw [hpiece, Token.hexPair]
      simp [run, step, hzero, hfirst, hlast]
      omega
    · rename_i hhigh
      have hpiece : Piece.ofChar c = .char c := if_neg fun h => hhigh h.1
      have hstep : step (.string read, done) c = some (.string (.char c :: read), done) := by
        have h₁ : (c == '"') = false := by simpa using hquote
        have h₂ : (c == '\\') = false := by simpa using hslash
        simp only [step, h₁, h₂, Bool.false_eq_true, if_false, if_neg hhigh]
      rw [hpiece, run_cons, hstep, Option.bind_some, run_nil]
  all_goals rfl

/-- The text of a string is read piece by piece. -/
theorem run_spellChars (read : List Piece) (cs : List Char) :
    run (.string read, done) (cs.flatMap Token.spellChar) =
      some (.string ((cs.map Piece.ofChar).reverse ++ read), done) := by
  induction cs generalizing read with
  | nil => rfl
  | cons c cs ih =>
    rw [List.flatMap_cons, run_append, run_spellChar, Option.bind_some, ih, List.map_cons,
      List.reverse_cons, List.append_assoc]
    rfl

end Scanner

/-! ### Single tokens -/

namespace Token

/-- The token is a bracket, a comma or a colon. -/
def isMark : Token → Bool
  | .openArray | .closeArray | .openObject | .closeObject | .comma | .colon => true
  | _ => false

/-- The text of the token shows where it ends. -/
def isClosed : Token → Bool
  | .string _ => true
  | t => t.isMark

/-- The two tokens do not run together in a text. -/
def Apart (t u : Token) : Prop := t.isClosed = true ∨ u.isMark = true

end Token

namespace Scanner

/-- The character continues neither a word nor a number. -/
def Delimits (c : Char) : Prop := isWordChar c = false ∧ isNumberChar c = false

/-- The scanner has read the tokens `done`. It may not know yet that the last one is complete, but
it will at the next character that delimits, or at the end of the text. -/
structure Settles (st : Scanner × List Token) (done : List Token) : Prop where
  /-- a delimiter begins the next token as if this one had been closed -/
  step : ∀ c, Delimits c → step st c = start done c
  /-- and at the end of the text the tokens are complete -/
  finish : finish st = some done.reverse

variable {done : List Token}

/-- Between tokens nothing is left to notice. -/
theorem settles_between : Settles (.between, done) done := ⟨fun _ _ => rfl, rfl⟩

/-- A word that is complete is settled, ... -/
theorem settles_word {read : List Char} {t : Token} (h : word? read.reverse = some t) :
    Settles (.word read, done) (t :: done) where
  step c hc := by simp only [Scanner.step, hc.1, Bool.false_eq_true, if_false, h, Option.bind_some]
  finish := by simp only [Scanner.finish, h, Option.map_some]

/-- ... and so is a number. -/
theorem settles_number {read : List Char} {n : Option Number}
    (h : Number.read? read.reverse = some n) :
    Settles (.number read, done) (.number n :: done) where
  step c hc := by simp only [Scanner.step, hc.2, Bool.false_eq_true, if_false, h, Option.bind_some]
  finish := by simp only [Scanner.finish, h, Option.map_some]

/-- Characters of a number all go into the number. -/
theorem run_number (read : List Char) {cs : List Char} (h : ∀ c ∈ cs, isNumberChar c = true) :
    run (.number read, done) cs = some (.number (cs.reverse ++ read), done) := by
  -- the characters are kept in reverse, the last one in front
  induction cs generalizing read with
  | nil => rfl
  | cons c cs ih =>
    have hstep : step (.number read, done) c = some (.number (c :: read), done) :=
      if_pos (h c List.mem_cons_self)
    rw [run_cons, hstep, Option.bind_some, ih _ fun d hd => h d (List.mem_cons_of_mem c hd),
      List.reverse_cons, List.append_assoc]
    rfl

/-- A digit or a minus sign begins a number. -/
theorem start_number {c : Char} (h : (c.isDigit || c == '-') = true) :
    start done c = some (.number [c], done) := by
  -- such a character is in a range that keeps it apart from everything else that begins a token
  have hrange : c = '-' ∨ '0' ≤ c ∧ c ≤ '9' := by
    rcases Bool.or_eq_true_iff.1 h with hc | hc
    · exact .inr (by simpa [Char.isDigit, Char.le_def, UInt32.le_iff_toNat_le] using hc)
    · exact .inl (by simpa using hc)
  have hspace : isSpace c = false := by
    rcases hrange with rfl | ⟨hlow, -⟩
    · rfl
    · simp only [isSpace, Bool.or_eq_false_iff, beq_eq_false_iff_ne]
      refine ⟨⟨⟨?_, ?_⟩, ?_⟩, ?_⟩ <;> rintro rfl <;> exact absurd hlow (by decide)
  have hquote : (c == '"') = false := by
    rcases hrange with rfl | ⟨hlow, -⟩
    · rfl
    · rw [beq_eq_false_iff_ne]
      rintro rfl
      exact absurd hlow (by decide)
  have hword : isWordChar c = false := by
    rcases hrange with rfl | ⟨-, hhigh⟩
    · rfl
    · have hlt : ¬ 'a' ≤ c := fun ha => absurd (Char.le_trans ha hhigh) (by decide)
      simp [isWordChar, hlt]
  simp only [start, hspace, hquote, hword, h, Bool.false_eq_true, if_false, if_true]

/-- A string is read between its quotes, and closed by the second one. -/
theorem run_string (s : String) :
    run (.between, done) (Token.spell (.string (some s))) =
      some (.between, .string (some s) :: done) := by
  have hstart : step (.between, done) '"' = some (.string [], done) := rfl
  change run (.between, done) ('"' :: (s.toList.flatMap Token.spellChar ++ ['"'])) = _
  rw [run_cons, hstart, Option.bind_some, run_append, run_spellChars, Option.bind_some, run_cons,
    List.append_nil]
  simp only [step, beq_self_eq_true, if_true, List.reverse_reverse, Piece.text_ofChar,
    Option.map_some, String.ofList_toList, Option.bind_some, run_nil]

/-- **A token is read from its text**, up to its end not being known yet. -/
theorem run_spell (t : Token) (done : List Token) :
    ∃ st, run (.between, done) t.spell = some st ∧ Settles st (t :: done) ∧
      (t.isClosed = true → st = (.between, t :: done)) := by
  cases t with
  | null => exact ⟨_, rfl, settles_word rfl, fun h => nomatch h⟩
  | bool b =>
    cases b with
    | true => exact ⟨_, rfl, settles_word rfl, fun h => nomatch h⟩
    | false => exact ⟨_, rfl, settles_word rfl, fun h => nomatch h⟩
  | number n =>
    cases n with
    | none => exact ⟨_, rfl, settles_number rfl, fun h => nomatch h⟩
    | some n =>
      obtain ⟨c, cs, hwrite, hfirst⟩ := n.exists_write_eq_cons
      have hcs : ∀ d ∈ cs, isNumberChar d = true :=
        fun d hd => n.isNumberChar_write d (hwrite ▸ List.mem_cons_of_mem c hd)
      -- the scanner is still in the number, and has all of it
      refine ⟨(.number (cs.reverse ++ [c]), done), ?_, settles_number ?_, fun h => nomatch h⟩
      · change run (.between, done) n.write = _
        rw [hwrite, run_cons]
        change (start done c).bind _ = _
        rw [start_number hfirst, Option.bind_some, run_number _ hcs]
      · rw [← List.reverse_cons, List.reverse_reverse, ← hwrite, n.read_write]
  | string s =>
    cases s with
    | none => exact ⟨_, rfl, settles_between, fun _ => rfl⟩
    | some s => exact ⟨_, run_string s, settles_between, fun _ => rfl⟩
  | _ => exact ⟨_, rfl, settles_between, fun _ => rfl⟩

/-- The text of a mark is one character that delimits. -/
theorem exists_spell_mark {t : Token} (h : t.isMark = true) :
    ∃ c, t.spell = [c] ∧ Delimits c := by
  cases t with
  | openArray => exact ⟨'[', rfl, rfl, rfl⟩
  | closeArray => exact ⟨']', rfl, rfl, rfl⟩
  | openObject => exact ⟨'\x7b', rfl, rfl, rfl⟩
  | closeObject => exact ⟨'\x7d', rfl, rfl, rfl⟩
  | comma => exact ⟨',', rfl, rfl, rfl⟩
  | colon => exact ⟨':', rfl, rfl, rfl⟩
  | _ => cases h

/-! ### Texts of tokens -/

/-- **Tokens are read from their text.** -/
theorem run_spells {ts : List Token} (h : List.IsChain Token.Apart ts) (done : List Token) :
    ∃ st, run (.between, done) (ts.flatMap Token.spell) = some st ∧
      Settles st (ts.reverse ++ done) := by
  induction ts generalizing done with
  | nil => exact ⟨_, rfl, settles_between⟩
  | cons t rest ih =>
    obtain ⟨st, hrun, hsettles, hclosed⟩ := run_spell t done
    obtain ⟨st', hrun', hsettles'⟩ := ih h.tail (t :: done)
    rw [List.flatMap_cons, run_append, hrun, Option.bind_some, List.reverse_cons,
      List.append_assoc]
    -- at the end of the text the last token may be open; before another one it is closed, or the
    -- next is a mark
    cases rest with
    | nil => exact ⟨st, rfl, hsettles⟩
    | cons u rest =>
      refine ⟨st', ?_, hsettles'⟩
      rw [← hrun']
      rcases (List.isChain_cons_cons.1 h).1 with hc | hm
      · rw [hclosed hc]
      · -- the mark that follows is where the scanner notices
        obtain ⟨c, hspell, hc⟩ := exists_spell_mark hm
        rw [List.flatMap_cons, hspell, List.singleton_append, run_cons, run_cons,
          hsettles.step c hc]
        rfl

end Scanner

/-- **Tokens that are apart are found again in their text.** -/
theorem Token.scan_spell {ts : List Token} (h : List.IsChain Token.Apart ts) :
    Token.scan (ts.flatMap Token.spell) = some ts := by
  obtain ⟨st, hrun, hsettles⟩ := Scanner.run_spells h []
  rw [Token.scan, hrun, Option.bind_some, hsettles.finish, List.append_nil, List.reverse_reverse]

/-! ### No control characters -/

namespace Token

/-- No control character stands in a number. -/
theorem le_toNat_of_isNumberChar {c : Char} (h : Scanner.isNumberChar c = true) :
    0x20 ≤ c.toNat := by
  simp only [Scanner.isNumberChar, Bool.or_eq_true, beq_iff_eq] at h
  rcases h with ((((h | rfl) | rfl) | rfl) | rfl) | rfl
  · have hlow : 48 ≤ c.toNat := by
      have hdigit : 48 ≤ c.val ∧ c.val ≤ 57 := by simpa [Char.isDigit] using h
      exact UInt32.le_iff_toNat_le.1 hdigit.1
    omega
  all_goals decide

/-- That a text has no control character can be computed. -/
theorem noControl_of_all {cs : List Char} (h : cs.all (0x20 ≤ ·.toNat) = true) :
    ∀ c ∈ cs, 0x20 ≤ c.toNat :=
  fun c hc => of_decide_eq_true (List.all_eq_true.1 h c hc)

/-- Inside a string every control character is escaped. -/
theorem noControl_spellChar (c : Char) : ∀ d ∈ spellChar c, 0x20 ≤ d.toNat := by
  have hdigit : ∀ k : Fin 16, 0x20 ≤ (Nat.digitChar k).toNat := by decide
  unfold spellChar
  split
  case h_8 =>
    split
    · -- a numeric escape: a backslash, three characters that are always the same, and two digits
      rename_i hlow
      intro d hd
      simp only [hexPair, List.mem_cons, List.not_mem_nil, or_false] at hd
      rcases hd with rfl | rfl | rfl | rfl | rfl | rfl
      · decide
      · decide
      · decide
      · decide
      · exact hdigit ⟨c.toNat / 16, by omega⟩
      · exact hdigit ⟨c.toNat % 16, by omega⟩
    · rename_i hhigh
      exact fun d hd => List.mem_singleton.1 hd ▸ Nat.not_lt.1 hhigh
  -- each of the short escapes is a text of two characters
  all_goals exact noControl_of_all rfl

/-- **No token is spelled with a control character**, whatever its string may hold. -/
theorem noControl_spell (t : Token) : ∀ c ∈ t.spell, 0x20 ≤ c.toNat := by
  cases t with
  | bool b => cases b <;> exact noControl_of_all rfl
  | number n =>
    cases n with
    | none => exact noControl_of_all rfl
    | some n => exact fun c hc => le_toNat_of_isNumberChar (n.isNumberChar_write c hc)
  | string s =>
    cases s with
    | none => exact noControl_of_all rfl
    | some s =>
      intro c hc
      rcases List.mem_cons.1 hc with rfl | hc
      · decide
      rcases List.mem_append.1 hc with hc | hc
      · obtain ⟨d, -, hd⟩ := List.mem_flatMap.1 hc
        exact noControl_spellChar d c hd
      · obtain rfl := List.mem_singleton.1 hc
        decide
  | _ => exact noControl_of_all rfl

end Token

end GlBridge
