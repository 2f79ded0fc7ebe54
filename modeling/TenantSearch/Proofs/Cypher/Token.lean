/-!
# `TenantSearch.Proofs.Cypher.Token`: statements as tokens

The text of a statement is read from left to right into tokens. A word is a run of letters,
digits and underscores, and it is as long as the run (maximal munch). The word after a dollar
sign is the name of a parameter. Every other word is a keyword or a name, and keywords are
recognised in any case. Blanks only separate.

A text that is written in parts is read in parts, as long as no word runs over from one part to
the next. Two predicates keep track of this:

* `Delimited text ts`: the text reads as `ts` whatever follows. Nothing can run over its end.
* `Spelled text ts`: the text reads as `ts` unless a word goes on behind it.
* `Clause text ts`: the text reads as `ts`, and it can stand behind any text.

Their rules of composition (`Delimited.append`, `Spelled.append`, `Delimited.spelled`) are all
that later modules use. None of them looks at `scan` again.
-/

set_option autoImplicit false

namespace TenantSearch.Cypher

/-- A token of a statement. -/
inductive Token where
  /-- A keyword, in upper case. -/
  | keyword (word : String)
  /-- Any other word. -/
  | name (word : String)
  /-- A word after a dollar sign. -/
  | parameter (word : String)
  | atMost
  | atLeast
  /-- Two quotes with nothing between them. -/
  | emptyText
  | symbol (c : Char)
deriving DecidableEq

/-- The keywords that statements use, and the constants. -/
def keywords : List String :=
  ["MATCH", "OPTIONAL", "WHERE", "RETURN", "ORDER", "BY", "SKIP", "LIMIT", "ASC", "DESC", "AND",
   "OR", "NOT", "IS", "NULL", "IN", "CONTAINS", "STARTS", "WITH", "TRUE", "FALSE"]

/-- Whether a word may contain the character. -/
def isWordChar (c : Char) : Bool := c.isAlphanum || c = '_'

/-- The keyword that a word spells in some case, or else the word as a name. -/
def Token.ofWord (word : List Char) : Token :=
  let upper := String.ofList (word.map Char.toUpper)
  if upper ∈ keywords then .keyword upper else .name (String.ofList word)

/-- What has been read of a word. -/
inductive Run where
  | idle
  | word (read : List Char)
  | parameter (read : List Char)

namespace Run

/-- The run with one more character. -/
def push (c : Char) : Run → Run
  | idle => word [c]
  | word read => word (read ++ [c])
  | parameter read => parameter (read ++ [c])

/-- The token of a run that has come to its end. -/
def flush : Run → List Token
  | idle => []
  | word read => [.ofWord read]
  | parameter read => [.parameter (String.ofList read)]

end Run

/-- The tokens of a text, with a run before it. -/
def scan : Run → List Char → List Token
  | run, [] => run.flush
  | run, '<' :: '=' :: rest => run.flush ++ .atMost :: scan .idle rest
  | run, '>' :: '=' :: rest => run.flush ++ .atLeast :: scan .idle rest
  | run, '\'' :: '\'' :: rest => run.flush ++ .emptyText :: scan .idle rest
  | run, c :: rest =>
    if isWordChar c then scan (run.push c) rest
    else if c = '$' then run.flush ++ scan (.parameter []) rest
    else if c = ' ' then run.flush ++ scan .idle rest
    else run.flush ++ .symbol c :: scan .idle rest

/-- The tokens of a text. -/
def tokens (s : String) : List Token := scan .idle s.toList

example :
    tokens "NOT (toLower(c.name) = $c_param_12)"
      = [.keyword "NOT", .symbol '(', .name "toLower", .symbol '(', .name "c", .symbol '.',
         .name "name", .symbol ')', .symbol '=', .parameter "c_param_12", .symbol ')'] := by
  decide

/-! ### Words -/

/-- Whether no word goes on where the text begins. -/
def Boundary (text : List Char) : Prop := ∀ c ∈ text.head?, isWordChar c = false

/-- A run ends at a boundary. The token that the run has gathered is given out, and scanning goes on
as if nothing came before. -/
theorem scan_of_boundary (run : Run) {text : List Char} (h : Boundary text) :
    scan run text = run.flush ++ scan .idle text := by
  fun_cases scan run text with
  | case1 => simp [scan, Run.flush]
  | case2 => simp [scan, Run.flush]
  | case3 => simp [scan, Run.flush]
  | case4 => simp [scan, Run.flush]
  | case5 _ c rest _ _ _ hword =>
    -- The only clause that goes on with the run, and a boundary rules it out.
    have hno : isWordChar c = false := h c rfl
    rw [hno] at hword
    exact absurd hword (by decide)
  | case6 _ _ _ _ _ hword => simp [scan, Run.flush, hword]
  | case7 _ _ _ _ _ hword => simp [scan, Run.flush, hword]
  | case8 _ c rest h₁ h₂ h₃ hword hdollar hblank =>
    rw [scan.eq_5 .idle c rest h₁ h₂ h₃]
    simp [Run.flush, hword, hdollar, hblank]

/-- A character of a word goes on with the run. -/
theorem scan_wordChar (run : Run) {c : Char} (h : isWordChar c = true) (rest : List Char) :
    scan run (c :: rest) = scan (run.push c) rest := by
  -- A word character is none of the three that may open a token of two characters.
  have hless : c ≠ '<' := by rintro rfl; exact absurd h (by decide)
  have hgreater : c ≠ '>' := by rintro rfl; exact absurd h (by decide)
  have hquote : c ≠ '\'' := by rintro rfl; exact absurd h (by decide)
  rw [scan.eq_5 run c rest (fun _ hc => absurd hc hless) (fun _ hc => absurd hc hgreater)
    (fun _ hc => absurd hc hquote), if_pos h]

/-- All characters of a word go on with the run. -/
theorem scan_wordChars {word : List Char} (h : ∀ c ∈ word, isWordChar c = true) (run : Run)
    (rest : List Char) :
    scan run (word ++ rest) = scan (word.foldl (fun r c => r.push c) run) rest := by
  induction word generalizing run with
  | nil => rfl
  | cons c word ih =>
    rw [List.cons_append, scan_wordChar run (h c (by simp)), List.foldl_cons]
    exact ih (fun d hd => h d (by simp [hd])) (run.push c)

/-- A word takes up the characters that are pushed, in order. -/
theorem foldl_push_word (read word : List Char) :
    word.foldl (fun r c => r.push c) (Run.word read) = .word (read ++ word) := by
  induction word generalizing read with
  | nil => simp
  | cons c word ih =>
    rw [List.foldl_cons, Run.push, ih, List.append_assoc, List.singleton_append]

/-- So does the name of a parameter. -/
theorem foldl_push_parameter (read word : List Char) :
    word.foldl (fun r c => r.push c) (Run.parameter read) = .parameter (read ++ word) := by
  induction word generalizing read with
  | nil => simp
  | cons c word ih =>
    rw [List.foldl_cons, Run.push, ih, List.append_assoc, List.singleton_append]

/-! ### Texts in parts -/

/-- The text is read as the tokens, whatever follows. -/
def Delimited (text : String) (ts : List Token) : Prop :=
  ∀ rest, scan .idle (text.toList ++ rest) = ts ++ scan .idle rest

/-- The text is read as the tokens, unless a word goes on behind it. -/
def Spelled (text : String) (ts : List Token) : Prop :=
  ∀ rest, Boundary rest → scan .idle (text.toList ++ rest) = ts ++ scan .idle rest

/-- The text begins with a character that no word contains. -/
def Separated (text : String) : Prop := ∃ c ∈ text.toList.head?, isWordChar c = false

instance (text : String) : Decidable (Separated text) :=
  decidable_of_iff (text.toList.head?.any fun c => !isWordChar c) (by
    cases h : text.toList.head? <;> simp [Separated, h])

/-- What follows a separator does not matter. -/
theorem separated_append {s : String} (h : Separated s) (t : String) : Separated (s ++ t) := by
  obtain ⟨c, hc, hno⟩ := h
  refine ⟨c, ?_, hno⟩
  rw [String.toList_append, Option.mem_def, List.head?_append, Option.mem_def.1 hc]
  rfl

/-- What is read as its tokens whatever follows is so in front of a boundary. -/
theorem Delimited.spelled {text : String} {ts : List Token} (h : Delimited text ts) :
    Spelled text ts := fun rest _ => h rest

/-- Behind a text that ends by itself, the next one is read on its own. -/
theorem Delimited.append {s t : String} {ts us : List Token} (hs : Delimited s ts)
    (ht : Delimited t us) : Delimited (s ++ t) (ts ++ us) := by
  intro rest
  rw [String.toList_append, List.append_assoc, hs, ht, List.append_assoc]

/-- The last of two texts decides whether a word may go on behind both. -/
theorem Delimited.append_spelled {s t : String} {ts us : List Token} (hs : Delimited s ts)
    (ht : Spelled t us) : Spelled (s ++ t) (ts ++ us) := by
  intro rest hrest
  rw [String.toList_append, List.append_assoc, hs, ht rest hrest, List.append_assoc]

/-- What begins with a separator stands behind a word without joining it. Only its first character
matters, and that is no character of a word. -/
theorem boundary_append {text : String} (h : Separated text) (rest : List Char) :
    Boundary (text.toList ++ rest) := by
  obtain ⟨c, hc, hno⟩ := h
  intro d hd
  cases htext : text.toList with
  | nil => simp [htext] at hc
  | cons first others =>
    simp only [htext, List.head?_cons, Option.mem_def, Option.some.injEq] at hc
    simp only [htext, List.cons_append, List.head?_cons, Option.mem_def,
      Option.some.injEq] at hd
    rw [← hd, hc]
    exact hno

/-- Two texts that may end in words are read one by one when a separator comes between them. Without
it the two words would be one. -/
theorem Spelled.append {s t : String} {ts us : List Token} (hs : Spelled s ts)
    (ht : Spelled t us) (hsep : Separated t) : Spelled (s ++ t) (ts ++ us) := by
  intro rest hrest
  rw [String.toList_append, List.append_assoc, hs _ (boundary_append hsep rest), ht rest hrest,
    List.append_assoc]

/-- A mark that ends by itself, and begins with a separator, closes a text that may end in a word.
-/
theorem Spelled.append_delimited {s t : String} {ts us : List Token} (hs : Spelled s ts)
    (ht : Delimited t us) (hsep : Separated t) : Delimited (s ++ t) (ts ++ us) := by
  intro rest
  rw [String.toList_append, List.append_assoc, hs _ (boundary_append hsep rest), ht rest,
    List.append_assoc]

/-- A text that can stand behind any other. There is nothing of it, or it begins with a
separator. -/
def Clause (text : String) (ts : List Token) : Prop :=
  (text = "" ∧ ts = []) ∨ (Separated text ∧ Spelled text ts)

/-- A clause can stand behind any text. If there is nothing of it, the text remains as it is. -/
theorem Spelled.append_clause {s t : String} {ts us : List Token} (hs : Spelled s ts)
    (ht : Clause t us) : Spelled (s ++ t) (ts ++ us) := by
  rcases ht with ⟨rfl, rfl⟩ | ⟨hsep, ht⟩
  · rwa [String.append_empty, List.append_nil]
  · exact hs.append ht hsep

/-- The tokens of a text that stands alone. The end of the text is a boundary. -/
theorem Spelled.tokens_eq {text : String} {ts : List Token} (h : Spelled text ts) :
    tokens text = ts := by
  have halone := h [] (by simp [Boundary])
  simpa [tokens, scan, Run.flush] using halone

/-- A text that leaves a run behind is spelled with the token of the run at its end. -/
theorem spelled_of_run {text : String} (ts : List Token) (run : Run)
    (h : ∀ rest, scan .idle (text.toList ++ rest) = ts ++ scan run rest) :
    Spelled text (ts ++ run.flush) := by
  -- The boundary behind the text ends the run.
  intro rest hrest
  rw [h, scan_of_boundary run hrest, List.append_assoc]

/-! ### Names -/

/-- Whether the text consists of characters that words may contain. -/
def IsWordText (text : String) : Prop := ∀ c ∈ text.toList, isWordChar c = true

instance (text : String) : Decidable (IsWordText text) :=
  decidable_of_iff (text.toList.all isWordChar = true) (by simp [IsWordText])

/-- Whether the text is read as a name when it stands alone. -/
def IsName (text : String) : Prop :=
  IsWordText text ∧ Token.ofWord text.toList = .name text ∧ text ≠ ""

instance (text : String) : Decidable (IsName text) :=
  inferInstanceAs (Decidable (_ ∧ _ ∧ _))

/-- A name is read as a name. It is not empty and spells no keyword, so the run that its characters
make is flushed as one. -/
theorem IsName.spelled {word : String} (h : IsName word) : Spelled word [.name word] := by
  obtain ⟨hchars, hname, hne⟩ := h
  intro rest hrest
  cases hw : word.toList with
  | nil => exact absurd (String.toList_eq_nil_iff.1 hw) hne
  | cons c others =>
    -- The first character opens a word, and the others go on with it.
    have hrun : (c :: others).foldl (fun r c => r.push c) Run.idle = .word (c :: others) := by
      rw [List.foldl_cons]
      exact foldl_push_word [c] others
    rw [← hw] at hrun
    rw [← hw, scan_wordChars hchars, hrun, scan_of_boundary _ hrest, Run.flush, hname]

/-- A parameter is read with its whole name, after a text that ends with the dollar sign. -/
theorem IsWordText.spelled_parameter {word : String} (h : IsWordText word) (opening : String)
    (ts : List Token)
    (hopening : ∀ rest, scan .idle (opening.toList ++ rest) = ts ++ scan (.parameter []) rest) :
    Spelled (opening ++ word) (ts ++ [.parameter word]) := by
  intro rest hrest
  rw [String.toList_append, List.append_assoc, hopening, scan_wordChars h, foldl_push_parameter,
    scan_of_boundary _ hrest]
  simp [Run.flush]

/-- Words put together are a word. -/
theorem IsWordText.append {s t : String} (hs : IsWordText s) (ht : IsWordText t) :
    IsWordText (s ++ t) := by
  intro c hc
  rw [String.toList_append, List.mem_append] at hc
  exact hc.elim (hs c) (ht c)

/-- Different numbers are written differently. -/
theorem toString_injective : Function.Injective (toString : Nat → String) := by
  intro m n h
  have hdigits : Nat.toDigits 10 m = Nat.toDigits 10 n := by
    simpa using congrArg String.toList h
  calc
    m = Nat.ofDigitChars 10 (Nat.toDigits 10 m) 0 := Nat.ofDigitChars_ten_toDigits.symm
    _ = Nat.ofDigitChars 10 (Nat.toDigits 10 n) 0 := by rw [hdigits]
    _ = n := Nat.ofDigitChars_ten_toDigits

/-- Numbers consist of digits. -/
theorem isWordText_toString (n : Nat) : IsWordText (toString n) := by
  intro c hc
  have hmem : c ∈ Nat.toDigits 10 n := by simpa using hc
  have hdigit : c.isDigit = true := Nat.isDigit_of_mem_toDigits (by decide) (by decide) hmem
  simp [isWordChar, Char.isAlphanum, hdigit]

/-- No keyword contains a digit. -/
theorem isDigit_of_mem_keyword {word : String} (h : word ∈ keywords) :
    ∀ c ∈ word.toList, c.isDigit = false := by
  have hall : keywords.all (fun word => word.toList.all fun c => !c.isDigit) = true := by decide
  intro c hc
  have hword := List.all_eq_true.1 hall word h
  simpa using List.all_eq_true.1 hword c hc

/-- Digits have no upper case. -/
theorem toUpper_of_isDigit {c : Char} (h : c.isDigit = true) : c.toUpper = c := by
  unfold Char.toUpper
  rw [dif_neg]
  simp only [Char.isDigit, Bool.and_eq_true, decide_eq_true_eq] at h
  intro hlower
  have hnine := UInt32.le_iff_toNat_le.1 h.2
  have ha := UInt32.le_iff_toNat_le.1 hlower.1
  simp only [Char.reduceVal, UInt32.reduceToNat] at hnine ha
  omega

/-- A word with a digit is a name. No keyword has a digit, so the word cannot be read as one in any
case of letters. -/
theorem isName_of_digit {word : String} (h : IsWordText word) {c : Char}
    (hc : c ∈ word.toList) (hdigit : c.isDigit = true) : IsName word := by
  refine ⟨h, ?_, ?_⟩
  -- The digit would be in the keyword, because it has no upper case.
  · unfold Token.ofWord
    rw [if_neg, String.ofList_toList]
    intro hmem
    have hupper : c ∈ (String.ofList (word.toList.map Char.toUpper)).toList := by
      rw [String.toList_ofList, List.mem_map]
      exact ⟨c, hc, toUpper_of_isDigit hdigit⟩
    rw [isDigit_of_mem_keyword hmem c hupper] at hdigit
    exact absurd hdigit (by decide)
  · rintro rfl
    simp at hc

/-- A number is read as a name when it stands alone, because keywords have no digits. -/
theorem isName_toString (n : Nat) : IsName (toString n) := by
  obtain ⟨c, hc⟩ := List.exists_mem_of_ne_nil (Nat.toDigits 10 n) Nat.toDigits_ne_nil
  have hdigit : c.isDigit = true := Nat.isDigit_of_mem_toDigits (by decide) (by decide) hc
  exact isName_of_digit (isWordText_toString n) (c := c) (by simpa using hc) hdigit

end TenantSearch.Cypher
