import GitvTime.Source.PlainFields
import GitvTime.Source.UserInfo.Cql
import GitvTime.Support.QuotedText

/-!
# Log fields in CQL literals

The statements that are built as text put their fields between quotes as they are.
CQL reads a doubled quote in a literal as one and a single quote as its end, so a
statement is its template with the fields as literals exactly when no field has a
quote in it. The legality check of the fields does not look for quotes.
-/
namespace GitvTime.Guarantees.UserInfo.CqlLiterals
open GitvTime.Support.QuotedText GitvTime.Source.Numbers GitvTime.Source.StringHandle
open GitvTime.Source.Patterns GitvTime.Source.UserInfo.Cql
open GitvTime.Source.UserInfo.AppVersion (VersionColumn Upgrade columnOf)
open GitvTime.Source.RmConsumer (Partner)

/-- CQL's quote. -/
def quote : Char := '\x27'

def QuoteFree (field : String) : Prop := quote ∉ field.toList

instance (field : String) : Decidable (QuoteFree field) := by unfold QuoteFree; infer_instance

/-- The statement is read as its template with exactly these fields as literals. -/
def KeepsMeaning (template statement : String) (fields : List String) : Prop :=
  ∃ tokens, lex quote template.toList = some tokens ∧
    (literals tokens).length = fields.length ∧
      lex quote statement.toList = some (fill tokens (fields.map String.toList))

/-! ### Templates -/

def placeholder : List Char := "%s".toList

/-- All literals are placeholders, and there are no conversions outside of them. -/
def IsTemplate (tokens : List (Token Char)) : Bool :=
  WellFormed quote tokens && tokens.all fun
    | .plain char => char != '%'
    | .literal content => content == placeholder

/-- The text reads as a template for so many fields. -/
def readsAsTemplate (template : List Char) (fields : Nat) : Bool :=
  match lex quote template with
  | some tokens => IsTemplate tokens && (literals tokens).length == fields
  | none => false

theorem format_plain {char : Char} (different : char ≠ '%') (rest : List Char)
    (args : List String) : format (char :: rest) args = (format rest args).map (char :: ·) := by
  simp [format, different]

theorem format_placeholder (arg : String) (rest : List Char) (args : List String) :
    format ("%s".toList ++ rest) (arg :: args) = (format rest args).map (arg.toList ++ ·) := rfl

/-- Formatting fills the literals of a template. -/
theorem format_printRaw {tokens : List (Token Char)} (template : IsTemplate tokens = true)
    {args : List String} (length : (literals tokens).length = args.length) :
    format (printRaw quote tokens) args =
      some (printRaw quote (fill tokens (args.map String.toList))) := by
  have quote_ne : quote ≠ '%' := by decide
  have holes := (Bool.and_eq_true_iff.mp template).2
  clear template
  induction tokens generalizing args with
  | nil => rfl
  | cons token rest ih =>
    simp only [List.all_cons, Bool.and_eq_true] at holes
    obtain ⟨here, later⟩ := holes
    cases token with
    | plain char =>
      have different : char ≠ '%' := by simpa using here
      rw [printRaw_cons, Token.raw, List.singleton_append, format_plain different, ih length later]
      rfl
    | literal content =>
      have named : content = placeholder := by simpa using here
      cases args with
      | nil => simp [literals] at length
      | cons arg args =>
        have tail : (literals rest).length = args.length := by simpa [literals] using length
        have text : printRaw quote (.literal content :: rest) =
            quote :: ("%s".toList ++ quote :: printRaw quote rest) := by
          simp [printRaw_cons, Token.raw, named, placeholder]
        rw [text, format_plain quote_ne, format_placeholder, format_plain quote_ne, ih tail later]
        simp [fill, printRaw_cons, Token.raw]

theorem printRaw_of_template {template : String} {tokens : List (Token Char)}
    (read : lex quote template.toList = some tokens) (checked : IsTemplate tokens = true) :
    printRaw quote tokens = template.toList := by
  have free : ∀ content ∈ literals tokens, quote ∉ content := by
    intro content member
    obtain ⟨token, there, same⟩ := List.mem_filterMap.mp member
    have hole := List.all_eq_true.mp (Bool.and_eq_true_iff.mp checked).2 token there
    cases token with
    | plain char => cases same
    | literal content' =>
      cases same
      have named : content = placeholder := by simpa using hole
      rw [named]
      decide
  rw [← print_eq_printRaw free, print_lex read]

/-- A formatted statement keeps the meaning of its template exactly when its fields
have no quotes. -/
theorem keepsMeaning_format_iff {template : String} {fields : List String}
    (checked : readsAsTemplate template.toList fields.length = true) :
    ∃ statement, format template.toList fields = some statement ∧
      (KeepsMeaning template (String.ofList statement) fields ↔
        ∀ field ∈ fields, QuoteFree field) := by
  unfold readsAsTemplate at checked
  split at checked
  · rename_i tokens read
    obtain ⟨is_template, length⟩ := Bool.and_eq_true_iff.mp checked
    have length : (literals tokens).length = fields.length := by simpa using length
    have filled := format_printRaw is_template length
    rw [printRaw_of_template read is_template] at filled
    refine ⟨_, filled, ?_⟩
    have formed : WellFormed quote (fill tokens (fields.map String.toList)) = true := by
      rw [wellFormed_fill]
      exact (Bool.and_eq_true_iff.mp is_template).1
    have contents : literals (fill tokens (fields.map String.toList)) =
        fields.map String.toList := literals_fill (by simpa using length)
    have meant := lex_printRaw_iff formed
    rw [contents] at meant
    constructor
    · rintro ⟨tokens', read', _, same⟩
      cases read.symm.trans read'
      rw [String.toList_ofList] at same
      intro field member
      exact meant.mp same _ (List.mem_map_of_mem member)
    · intro free
      refine ⟨tokens, read, length, ?_⟩
      rw [String.toList_ofList]
      apply meant.mpr
      intro content member
      obtain ⟨field, there, rfl⟩ := List.mem_map.mp member
      exact free field there
  · cases checked

/-! ### The statements -/

/-- A text in two pieces is checked on its characters. -/
theorem readsAsTemplate_append {chars chars' : List Char} {fields : Nat}
    (checked : readsAsTemplate (chars ++ chars') fields = true) :
    readsAsTemplate (String.ofList chars ++ String.ofList chars').toList fields = true := by
  rwa [String.toList_append, String.toList_ofList, String.toList_ofList]

theorem updateUserinfo_checked (column : VersionColumn) :
    readsAsTemplate (updateUserinfo column).toList 5 = true := by
  cases column with
  | livod => exact readsAsTemplate_append (by decide +kernel)
  | vod => exact readsAsTemplate_append (by decide +kernel)
  | cnm => exact readsAsTemplate_append (by decide +kernel)

/-- The concatenation with its arguments still to come. -/
def notFoundTemplate : String := noFoundMac "%s" "%s" "%s"

theorem noFoundMac_toList (ts routingKey mac : String) :
    (noFoundMac ts routingKey mac).toList =
      "update not_found_from_mysql set ts='".toList ++ (ts.toList ++
        ("' where partner ='".toList ++ (routingKey.toList ++
          ("'".toList ++ ("and mac='".toList ++ (mac.toList ++ "'".toList)))))) := by
  unfold noFoundMac
  repeat rw [String.toList_append]
  repeat rw [List.append_assoc]

theorem notFound_checked : readsAsTemplate notFoundTemplate.toList 3 = true := by
  rw [notFoundTemplate, noFoundMac_toList]
  decide +kernel

theorem format_append {code : List Char} (no_conversion : '%' ∉ code) (rest : List Char)
    (args : List String) :
    format (code ++ rest) args = (format rest args).map (code ++ ·) := by
  induction code with
  | nil => simp
  | cons char code ih =>
    obtain ⟨different, later⟩ := not_or.mp (mt List.mem_cons.mpr no_conversion)
    rw [List.cons_append, format_plain (Ne.symm different), ih later, Option.map_map]
    rfl

theorem format_notFound (ts routingKey mac : String) :
    format notFoundTemplate.toList [ts, routingKey, mac] =
      some (noFoundMac ts routingKey mac).toList := by
  have ending : format "'".toList [] = some "'".toList := by decide
  rw [notFoundTemplate, noFoundMac_toList, noFoundMac_toList, format_append (by decide +kernel),
    format_placeholder, format_append (by decide +kernel), format_placeholder,
    format_append (by decide +kernel), format_append (by decide +kernel), format_placeholder, ending]
  rfl

theorem quoteFree_toString (number : Int) : QuoteFree (toString number) := by
  intro member
  exact ne_of_digit (mem_toString member) (by decide) rfl

theorem quoteFree_routingKey (partner : Partner) : QuoteFree partner.routingKey := by
  cases partner <;> decide

theorem update_keepsMeaning_iff (column : VersionColumn)
    (app_version logtime partner mac : String) :
    ∃ statement, updateUifMapCql (updateUserinfo column) app_version logtime partner mac =
        some statement ∧
      (KeepsMeaning (updateUserinfo column) statement
          [app_version, app_version, logtime, partner, mac] ↔
        QuoteFree app_version ∧ QuoteFree logtime ∧ QuoteFree partner ∧ QuoteFree mac) := by
  obtain ⟨text, formatted, meant⟩ := @keepsMeaning_format_iff (updateUserinfo column)
    [app_version, app_version, logtime, partner, mac] (updateUserinfo_checked column)
  refine ⟨String.ofList text, ?_, ?_⟩
  · rw [updateUifMapCql, formatted, Option.map_some]
  · rw [meant]
    simp

/-- The time and the partner's name come from the consumer itself. -/
theorem notFound_keepsMeaning_iff (currentTimeMillis : Int) (partner : Partner) (mac : String) :
    KeepsMeaning notFoundTemplate (notFound currentTimeMillis partner mac)
        [toString currentTimeMillis, partner.routingKey, mac] ↔ QuoteFree mac := by
  obtain ⟨text, formatted, meant⟩ := @keepsMeaning_format_iff notFoundTemplate
    [toString currentTimeMillis, partner.routingKey, mac] notFound_checked
  rw [format_notFound] at formatted
  rw [← Option.some.inj formatted, String.ofList_toList] at meant
  have printed : QuoteFree currentTimeMillis.repr := quoteFree_toString currentTimeMillis
  rw [notFound, meant]
  simp [printed, quoteFree_routingKey]

/-- The three update statements and the one for an unknown mac keep their meaning
exactly when no field that the client sent has a quote in it. -/
theorem cql_keeps_meaning_iff (column : VersionColumn)
    (app_version logtime partner mac : String) (currentTimeMillis : Int) (consumer : Partner)
    (unknown : String) :
    (∃ statement, updateUifMapCql (updateUserinfo column) app_version logtime partner mac =
        some statement ∧
      (KeepsMeaning (updateUserinfo column) statement
          [app_version, app_version, logtime, partner, mac] ↔
        QuoteFree app_version ∧ QuoteFree logtime ∧ QuoteFree partner ∧ QuoteFree mac)) ∧
    (KeepsMeaning notFoundTemplate (notFound currentTimeMillis consumer unknown)
        [toString currentTimeMillis, consumer.routingKey, unknown] ↔ QuoteFree unknown) := by
  constructor
  · exact update_keepsMeaning_iff column app_version logtime partner mac
  · exact notFound_keepsMeaning_iff currentTimeMillis consumer unknown

/-- A version with a quote behind it is legal, and so is such a mac. -/
theorem quote_ends_literal :
    isLegalField ["2.0'", "2017-01-01 08:00:00", "AH_CMCC", "00226d0001f3'"] = true ∧
      (∀ statement, updateUifMapCql (updateUserinfo .livod) "2.0'" "2017-01-01 08:00:00" "AH_CMCC"
          "00226d0001f3'" = some statement →
        ¬ KeepsMeaning (updateUserinfo .livod) statement
          ["2.0'", "2.0'", "2017-01-01 08:00:00", "AH_CMCC", "00226d0001f3'"]) ∧
      ¬ KeepsMeaning notFoundTemplate (notFound 1483228800000 .ahCmcc "00226d0001f3'")
        [toString (1483228800000 : Int), "AH_CMCC", "00226d0001f3'"] := by
  refine ⟨by decide, ?_, ?_⟩
  · intro statement formatted kept
    obtain ⟨statement', formatted', meant⟩ := update_keepsMeaning_iff .livod "2.0'"
      "2017-01-01 08:00:00" "AH_CMCC" "00226d0001f3'"
    cases formatted.symm.trans formatted'
    exact absurd (meant.mp kept).1 (by decide)
  · intro kept
    exact absurd ((notFound_keepsMeaning_iff 1483228800000 .ahCmcc "00226d0001f3'").mp kept)
      (by decide)

/-- What `AppVersionUpdate_Bolt` sends for an emitted upgrade. -/
theorem cqlExecute_keepsMeaning_iff {input : Upgrade} {type app_version logtime partner mac : String}
    {column : VersionColumn} (known : columnOf type = some column)
    (fields : input.enumtype = some type ∧ input.appVersion = some app_version ∧
      input.logtime = some logtime ∧ input.partner = some partner ∧ input.mac = some mac) :
    ∃ statement, cqlExecute input = some statement ∧
      (KeepsMeaning (updateUserinfo column) statement
          [app_version, app_version, logtime, partner, mac] ↔
        QuoteFree app_version ∧ QuoteFree logtime ∧ QuoteFree partner ∧ QuoteFree mac) := by
  obtain ⟨has_type, has_version, has_time, has_partner, has_mac⟩ := fields
  have sent : cqlExecute input =
      updateUifMapCql (updateUserinfo column) app_version logtime partner mac := by
    simp only [cqlExecute, has_type, has_version, has_time, has_partner, has_mac,
      Option.bind_some, known]
  rw [sent]
  exact update_keepsMeaning_iff column app_version logtime partner mac

end GitvTime.Guarantees.UserInfo.CqlLiterals
