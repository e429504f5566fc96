import Mathlib.Data.List.Basic

/-!
# Text with quoted literals

A text is read as plain symbols and literals between two quotes, in which a doubled
quote stands for one. Printing with doubled quotes is what reading undoes. A text
printed without doubling is read as what was printed exactly when no literal has a
quote in it: whatever else it is read as, printing that again gives the text, which
is too short to hold a doubled quote.
-/
namespace GitvTime.Support.QuotedText

inductive Token (α : Type) where
  | plain (symbol : α)
  | literal (content : List α)
  deriving DecidableEq

/-- Where the reader is: outside of literals, in one, or behind a quote in one. -/
inductive Mode (α : Type) where
  | outside
  | inside (content : List α)
  | closing (content : List α)

variable {α : Type}

/-- The literals of a text. -/
def literals (tokens : List (Token α)) : List (List α) :=
  tokens.filterMap fun
    | .plain _ => none
    | .literal content => some content

/-- The contents of the literals replaced in their order. -/
def fill : List (Token α) → List (List α) → List (Token α)
  | [], _ => []
  | .plain symbol :: rest, contents => .plain symbol :: fill rest contents
  | .literal _ :: rest, content :: contents => .literal content :: fill rest contents
  | .literal content :: rest, [] => .literal content :: fill rest []

/-- With as many contents as literals these are the literals. -/
theorem literals_fill {tokens : List (Token α)} {contents : List (List α)}
    (length : (literals tokens).length = contents.length) :
    literals (fill tokens contents) = contents := by
  induction tokens generalizing contents with
  | nil => exact (List.length_eq_zero_iff.mp length.symm).symm
  | cons token rest ih =>
    cases token with
    | plain symbol => exact ih length
    | literal old =>
      cases contents with
      | nil => simp [literals] at length
      | cons content contents =>
        have tail : (literals rest).length = contents.length := by
          simpa [literals] using length
        have later := ih tail
        simpa [fill, literals] using later

variable (quote : α)

/-- The text of a token, its content as it is. -/
def Token.raw : Token α → List α
  | .plain symbol => [symbol]
  | .literal content => quote :: content ++ [quote]

def printRaw (tokens : List (Token α)) : List α := tokens.flatMap (Token.raw quote)

@[simp] theorem printRaw_nil : printRaw quote [] = ([] : List α) := rfl

theorem printRaw_cons (token : Token α) (rest : List (Token α)) :
    printRaw quote (token :: rest) = token.raw quote ++ printRaw quote rest := rfl

variable [DecidableEq α]

/-- The tokens of a text, `none` when a literal is not closed. -/
def lexFrom : Mode α → List α → Option (List (Token α))
  | .outside, [] => some []
  | .inside _, [] => none
  | .closing content, [] => some [.literal content]
  | .outside, symbol :: rest =>
    if symbol = quote then lexFrom (.inside []) rest
    else (lexFrom .outside rest).map (.plain symbol :: ·)
  | .inside content, symbol :: rest =>
    if symbol = quote then lexFrom (.closing content) rest
    else lexFrom (.inside (content ++ [symbol])) rest
  | .closing content, symbol :: rest =>
    if symbol = quote then lexFrom (.inside (content ++ [quote])) rest
    else (lexFrom .outside rest).map ([.literal content, .plain symbol] ++ ·)

def lex (text : List α) : Option (List (Token α)) := lexFrom quote .outside text

/-- Each quote doubled. -/
def escape (content : List α) : List α :=
  content.flatMap fun symbol => if symbol = quote then [quote, quote] else [symbol]

/-- The text of a token, its quotes doubled. -/
def Token.text : Token α → List α
  | .plain symbol => [symbol]
  | .literal content => quote :: escape quote content ++ [quote]

def print (tokens : List (Token α)) : List α := tokens.flatMap (Token.text quote)

/-- No plain symbol is a quote, and no literal follows another at once. -/
def WellFormed : List (Token α) → Bool
  | [] => true
  | .plain symbol :: rest => symbol != quote && WellFormed rest
  | .literal _ :: .literal _ :: _ => false
  | .literal _ :: rest => WellFormed rest

variable {quote}

@[simp] theorem lexFrom_outside_nil : lexFrom quote .outside [] = some [] := rfl

@[simp] theorem print_nil : print quote [] = ([] : List α) := rfl

theorem print_cons (token : Token α) (rest : List (Token α)) :
    print quote (token :: rest) = token.text quote ++ print quote rest := rfl

/-! ### Reading what was printed -/

theorem lexFrom_escape (content before rest : List α) :
    lexFrom quote (.inside before) (escape quote content ++ quote :: rest) =
      lexFrom quote (.closing (before ++ content)) rest := by
  induction content generalizing before with
  | nil => simp [escape, lexFrom]
  | cons symbol content ih =>
    have step : escape quote (symbol :: content) =
        (if symbol = quote then [quote, quote] else [symbol]) ++ escape quote content := rfl
    rw [step]
    by_cases same : symbol = quote
    · subst same
      simp [lexFrom, ih]
    · simp [lexFrom, same, ih]

/-- Behind a literal that no quote follows, reading goes on outside. -/
theorem lexFrom_closing (content : List α) {rest : List α} (no_quote : rest.head? ≠ some quote) :
    lexFrom quote (.closing content) rest =
      (lexFrom quote .outside rest).map (.literal content :: ·) := by
  cases rest with
  | nil => rfl
  | cons symbol rest =>
    have different : symbol ≠ quote := by
      rintro rfl
      exact no_quote rfl
    simp only [lexFrom, if_neg different, Option.map_map]
    rfl

/-- Behind a literal there is no quote. -/
theorem head_print {content : List α} {rest : List (Token α)}
    (formed : WellFormed quote (.literal content :: rest) = true) :
    (print quote rest).head? ≠ some quote ∧ WellFormed quote rest = true := by
  cases rest with
  | nil => simp [WellFormed]
  | cons token rest =>
    cases token with
    | plain symbol =>
      simp only [WellFormed, Bool.and_eq_true, bne_iff_ne] at formed ⊢
      exact ⟨by simpa [print_cons, Token.text] using formed.1, formed⟩
    | literal content' => simp [WellFormed] at formed

theorem lex_print {tokens : List (Token α)} (formed : WellFormed quote tokens = true) :
    lex quote (print quote tokens) = some tokens := by
  unfold lex
  induction tokens with
  | nil => rfl
  | cons token rest ih =>
    cases token with
    | plain symbol =>
      simp only [WellFormed, Bool.and_eq_true, bne_iff_ne] at formed
      rw [print_cons, Token.text, List.singleton_append, lexFrom, if_neg formed.1, ih formed.2]
      rfl
    | literal content =>
      obtain ⟨no_quote, formed'⟩ := head_print formed
      have text : print quote (.literal content :: rest) =
          quote :: (escape quote content ++ quote :: print quote rest) := by
        simp [print_cons, Token.text]
      rw [text, lexFrom, if_pos rfl, lexFrom_escape, List.nil_append,
        lexFrom_closing content no_quote, ih formed']
      rfl

/-! ### Printing what was read -/

theorem escape_concat (content : List α) (symbol : α) :
    escape quote (content ++ [symbol]) =
      escape quote content ++ if symbol = quote then [quote, quote] else [symbol] := by
  simp [escape]

/-- What has been read of the text, in each mode. -/
def Mode.text (quote : α) : Mode α → List α
  | .outside => []
  | .inside content => quote :: escape quote content
  | .closing content => quote :: escape quote content ++ [quote]

/-- Reading loses nothing. -/
theorem print_lexFrom {text : List α} {mode : Mode α} {tokens : List (Token α)}
    (read : lexFrom quote mode text = some tokens) :
    print quote tokens = mode.text quote ++ text := by
  induction text generalizing mode tokens with
  | nil =>
    cases mode with
    | outside =>
      cases read
      rfl
    | inside content => cases read
    | closing content =>
      cases read
      simp [print, Token.text, Mode.text]
  | cons symbol rest ih =>
    cases mode with
    | outside =>
      rw [lexFrom] at read
      split at read
      · rename_i same
        rw [ih read, same]
        rfl
      · obtain ⟨later, found, rfl⟩ := Option.map_eq_some_iff.mp read
        rw [print_cons, ih found]
        rfl
    | inside content =>
      rw [lexFrom] at read
      split at read
      · rename_i same
        rw [ih read, same]
        simp [Mode.text]
      · rename_i different
        rw [ih read, Mode.text, Mode.text, escape_concat, if_neg different]
        simp
    | closing content =>
      rw [lexFrom] at read
      split at read
      · rename_i same
        rw [ih read, Mode.text, Mode.text, escape_concat, if_pos rfl, same]
        simp
      · obtain ⟨later, found, rfl⟩ := Option.map_eq_some_iff.mp read
        rw [List.cons_append, print_cons, List.cons_append, print_cons, List.nil_append, ih found]
        simp [Token.text, Mode.text]

theorem print_lex {text : List α} {tokens : List (Token α)} (read : lex quote text = some tokens) :
    print quote tokens = text :=
  print_lexFrom read

/-! ### Printing without doubling -/

theorem length_escape (content : List α) :
    (escape quote content).length = content.length + content.count quote := by
  induction content with
  | nil => rfl
  | cons symbol content ih =>
    have step : escape quote (symbol :: content) =
        (if symbol = quote then [quote, quote] else [symbol]) ++ escape quote content := rfl
    rw [step, List.length_append, ih, List.count_cons, List.length_cons]
    by_cases same : symbol = quote
    · simp [same]
      omega
    · simp [same]
      omega

theorem length_print (tokens : List (Token α)) :
    (print quote tokens).length =
      (printRaw quote tokens).length + (literals tokens).flatten.count quote := by
  induction tokens with
  | nil => rfl
  | cons token rest ih =>
    rw [print_cons, printRaw_cons, List.length_append, List.length_append, ih]
    cases token with
    | plain symbol =>
      simp only [Token.text, Token.raw, literals, List.filterMap_cons]
      omega
    | literal content =>
      have length : (escape quote content).length = _ := length_escape content
      simp only [Token.text, Token.raw, literals, List.filterMap_cons, List.flatten_cons,
        List.count_append, List.length_append, List.length_cons, length]
      omega

theorem escape_of_not_mem {content : List α} (absent : quote ∉ content) :
    escape quote content = content := by
  induction content with
  | nil => rfl
  | cons symbol content ih =>
    obtain ⟨different, absent⟩ := not_or.mp (mt List.mem_cons.mpr absent)
    have step : escape quote (symbol :: content) =
        (if symbol = quote then [quote, quote] else [symbol]) ++ escape quote content := rfl
    rw [step, ih absent, if_neg (Ne.symm different)]
    rfl

theorem print_eq_printRaw {tokens : List (Token α)}
    (free : ∀ content ∈ literals tokens, quote ∉ content) :
    print quote tokens = printRaw quote tokens := by
  induction tokens with
  | nil => rfl
  | cons token rest ih =>
    cases token with
    | plain symbol =>
      rw [print_cons, printRaw_cons, ih free]
      rfl
    | literal content =>
      rw [print_cons, printRaw_cons, ih fun other member => free other (List.mem_cons_of_mem _ member),
        Token.text, escape_of_not_mem (free content List.mem_cons_self)]
      rfl

/-- A text printed without doubling is read as it was meant exactly when no literal
has a quote. -/
theorem lex_printRaw_iff {tokens : List (Token α)} (formed : WellFormed quote tokens = true) :
    lex quote (printRaw quote tokens) = some tokens ↔
      ∀ content ∈ literals tokens, quote ∉ content := by
  constructor
  · intro read content member present
    have length : (print quote tokens).length = _ := length_print tokens
    rw [print_lex read] at length
    have counted : 0 < (literals tokens).flatten.count quote :=
      List.count_pos_iff.mpr (List.mem_flatten_of_mem member present)
    omega
  · intro free
    rw [← print_eq_printRaw free, lex_print formed]

/-! ### Filled texts -/

theorem wellFormed_fill (tokens : List (Token α)) (contents : List (List α)) :
    WellFormed quote (fill tokens contents) = WellFormed quote tokens := by
  induction tokens generalizing contents with
  | nil => rfl
  | cons token rest ih =>
    cases token with
    | plain symbol => simp only [fill, WellFormed, ih]
    | literal old =>
      cases rest with
      | nil => cases contents <;> rfl
      | cons next rest =>
        cases next with
        | plain symbol =>
          cases contents with
          | nil => exact ih []
          | cons content contents => exact ih contents
        | literal other =>
          cases contents with
          | nil => rfl
          | cons content contents => cases contents <;> rfl

end GitvTime.Support.QuotedText
