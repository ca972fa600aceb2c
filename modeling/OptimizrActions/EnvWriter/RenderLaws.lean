import OptimizrActions.EnvWriter.Render
import OptimizrActions.Lib.KeyValue

/-! What is written into an environment file is read back from it. -/

namespace OptimizrActions.EnvWriter

open Text (replaceAll)

section Decode

/-- The character that a backslash and this one stand for. -/
def escaped? (c : Char) : Option Char :=
  if c = '\\' ∨ c = '"' then some c
  else if c = 'n' then some '\n'
  else if c = 'r' then some '\r'
  else if c = 't' then some '\t'
  else none

/-- A character that stands for itself. -/
def isPlain (c : Char) : Bool := c ∉ ['\\', '"', '\r', '\n', '$']

/-- From left to right, each escape is the character that it stands for. -/
def unescape : List Char → Option (List Char)
  | [] => some []
  | [c] => if isPlain c then some [c] else none
  | c :: d :: rest =>
    if c = '\\' then (escaped? d).bind fun e => (unescape rest).map (e :: ·)
    else if c = '$' then if d = '$' then (unescape rest).map ('$' :: ·) else none
    else if isPlain c then (unescape (d :: rest)).map (c :: ·) else none

/-- Every quote, and every backslash, has its backslash before it. -/
def quotesEscaped : List Char → Bool
  | [] => true
  | [c] => c ≠ '\\' && c ≠ '"'
  | c :: d :: rest => if c = '\\' then quotesEscaped rest else c ≠ '"' && quotesEscaped (d :: rest)

/-- The text between the quotes. -/
def unquote (quoted : List Char) : Option (List Char) :=
  match quoted with
  | '"' :: rest => if rest.getLast? = some '"' then unescape rest.dropLast else none
  | _ => none

/-- The variables of an environment file. -/
def decodeEnv (text : List Char) : Option (List (String × String)) :=
  (KeyValue.read text).mapM fun pair =>
    (unquote pair.2.toList).map fun value => (pair.1, String.ofList value)

/-- What stands between the quotes of a line. -/
structure Inner (value : String) (inner : List Char) : Prop where
  lineFeed : '\n' ∉ inner
  carriageReturn : '\r' ∉ inner
  quotes : quotesEscaped inner = true
  decodes : unescape inner = some value.toList

/-- A line of the form `KEY="…"`. -/
def IsLine (pair : String × String) (line : List Char) : Prop :=
  ∃ inner, line = pair.1.toList ++ '=' :: '"' :: (inner ++ ['"']) ∧ Inner pair.2 inner

end Decode

section Quote

def escape (text : List Char) : List Char := replaceAll quoteReplacements text

theorem escape_cons (c : Char) (text : List Char) : escape (c :: text) = escape [c] ++ escape text :=
  Text.replaceAll_cons _ _ _

/-- A character stands for itself, behind a backslash, or twice. -/
inductive Shape (c : Char) : List Char → Prop
  | plain (plain : isPlain c = true) : Shape c [c]
  | backslash {d : Char} (decodes : escaped? d = some c) (inLine : d ≠ '\n' ∧ d ≠ '\r') :
      Shape c ['\\', d]
  | dollar (eq : c = '$') : Shape c ['$', '$']

theorem shape_escape (c : Char) : Shape c (escape [c]) := by
  by_cases special : c ∈ quoteReplacements.map Prod.fst
  · simp only [quoteReplacements, List.map_cons, List.map_nil, List.mem_cons, List.not_mem_nil,
      or_false] at special
    rcases special with rfl | rfl | rfl | rfl | rfl | rfl
    · exact .backslash (d := '\\') rfl (by decide)
    · exact .backslash (d := '"') rfl (by decide)
    · exact .backslash (d := 'r') rfl (by decide)
    · exact .backslash (d := 'n') rfl (by decide)
    · exact .backslash (d := 't') rfl (by decide)
    · exact .dollar rfl
  · rw [escape, Text.replaceAll_singleton_of_not_mem special]
    refine .plain ?_
    simp only [quoteReplacements, List.map_cons, List.map_nil, List.mem_cons, not_or] at special
    simp [isPlain, special]

theorem unescape_plain_cons {c : Char} (plain : isPlain c = true) (rest : List Char) :
    unescape (c :: rest) = (unescape rest).map (c :: ·) := by
  have backslash : c ≠ '\\' := fun eq => by simp [eq, isPlain] at plain
  have dollar : c ≠ '$' := fun eq => by simp [eq, isPlain] at plain
  cases rest with
  | nil => simp [unescape, plain]
  | cons d rest => rw [unescape, if_neg backslash, if_neg dollar, if_pos plain]

theorem quotesEscaped_plain_cons {c : Char} (plain : isPlain c = true) (rest : List Char) :
    quotesEscaped (c :: rest) = quotesEscaped rest := by
  have backslash : c ≠ '\\' := fun eq => by simp [eq, isPlain] at plain
  have quote : c ≠ '"' := fun eq => by simp [eq, isPlain] at plain
  cases rest with
  | nil => simp [quotesEscaped, backslash, quote]
  | cons d rest => simp [quotesEscaped, backslash, quote]

theorem unescape_backslash (d : Char) (rest : List Char) : unescape ('\\' :: d :: rest) =
    (escaped? d).bind fun e => (unescape rest).map (e :: ·) := if_pos rfl

theorem unescape_dollar (rest : List Char) :
    unescape ('$' :: '$' :: rest) = (unescape rest).map ('$' :: ·) := rfl

theorem quotesEscaped_dollar (rest : List Char) :
    quotesEscaped ('$' :: '$' :: rest) = quotesEscaped rest := by
  cases rest with
  | nil => rfl
  | cons c rest => rfl

theorem unescape_escape (text : List Char) : unescape (escape text) = some text := by
  induction text with
  | nil => rfl
  | cons c text ih =>
    rw [escape_cons]
    have shape := shape_escape c
    generalize escape [c] = image at shape
    cases shape with
    | plain plain =>
      rw [List.singleton_append, unescape_plain_cons plain, ih]
      rfl
    | @backslash d decodes inLine =>
      rw [List.cons_append, List.singleton_append, unescape_backslash, decodes, ih]
      rfl
    | dollar eq =>
      rw [List.cons_append, List.singleton_append, unescape_dollar, ih, eq]
      rfl

theorem quotesEscaped_escape (text : List Char) : quotesEscaped (escape text) = true := by
  induction text with
  | nil => rfl
  | cons c text ih =>
    rw [escape_cons]
    have shape := shape_escape c
    generalize escape [c] = image at shape
    cases shape with
    | plain plain => rw [List.singleton_append, quotesEscaped_plain_cons plain, ih]
    | backslash decodes inLine => exact ih
    | dollar eq => exact (quotesEscaped_dollar _).trans ih

theorem not_mem_escape {c : Char} (h : c = '\n' ∨ c = '\r') (text : List Char) :
    c ∉ escape text := by
  induction text with
  | nil => exact List.not_mem_nil
  | cons d text ih =>
    rw [escape_cons, List.mem_append, not_or]
    refine ⟨?_, ih⟩
    have shape := shape_escape d
    generalize escape [d] = image at shape
    cases shape with
    | plain plain =>
      intro mem
      rw [List.mem_singleton] at mem
      subst mem
      rcases h with rfl | rfl
      · exact absurd plain (by decide)
      · exact absurd plain (by decide)
    | backslash decodes inLine =>
      rcases h with rfl | rfl
      · simpa using Ne.symm inLine.1
      · simpa using Ne.symm inLine.2
    | dollar eq =>
      rcases h with rfl | rfl
      · decide
      · decide

theorem inner_escape (value : String) : Inner value (escape value.toList) where
  lineFeed := not_mem_escape (.inl rfl) _
  carriageReturn := not_mem_escape (.inr rfl) _
  quotes := quotesEscaped_escape _
  decodes := unescape_escape _

theorem unquote_quoted (inner : List Char) : unquote ('"' :: (inner ++ ['"'])) = unescape inner := by
  rw [unquote]
  have last : (inner ++ ['"']).getLast? = some '"' := List.getLast?_concat
  rw [if_pos last, List.dropLast_concat]

end Quote

section Render

variable {sha256 : String → String} {schema : Json} {environment : String → Option String}
  {entries : List SchemaEntry} {text : List Char} {metadata : List Json}

/-- The variables that the environment gives the entries. -/
def entryPairs (environment : String → Option String) (entries : List SchemaEntry) :
    Except String (List (String × String)) :=
  entries.mapM fun entry => (entryValue environment entry).map fun value => (entry.key, value.1)

/-- A key has no character that ends it or its line. -/
theorem isKey_of_keyField {value : Json} {message key : String}
    (h : keyField value message = .ok key) : KeyValue.IsKey key := by
  cases value with
  | str text =>
    obtain ⟨_, valid, rest⟩ := bind_eq_ok.mp h
    cases rest
    have valid := require_eq_ok.mp valid
    have each : ∀ c ∈ key.toList, (c.isUpper || c.isDigit || c = '_') = true := by
      unfold isKey Text.isBounded at valid
      split at valid
      next => exact absurd valid Bool.false_ne_true
      next c cs at_ =>
        rw [Bool.and_eq_true, Bool.and_eq_true] at valid
        rw [at_]
        refine List.forall_mem_cons.mpr ⟨?_, List.all_eq_true.mp valid.2⟩
        have first := valid.1.1
        rw [Bool.or_eq_true] at first ⊢
        rw [Bool.or_eq_true]
        exact first.imp_left Or.inl
    exact ⟨fun mem => absurd (each _ mem) (by decide), fun mem => absurd (each _ mem) (by decide),
      fun mem => absurd (each _ mem) (by decide)⟩
  | _ => exact absurd h error_ne_ok

theorem isKey_of_normalizeEntry {keys : List String} {raw : Json} {entry : SchemaEntry}
    (h : normalizeEntry keys raw = .ok entry) : KeyValue.IsKey entry.key := by
  cases raw with
  | obj fields =>
    simp only [normalizeEntry, bind_eq_ok] at h
    obtain ⟨key, keyOk, _, -, _, -, secret, -, required, -, rest⟩ := h
    split at rest
    next =>
      simp only [bind_eq_ok, pure_eq_ok] at rest
      obtain ⟨_, -, _, -, _, -, rfl⟩ := rest
      exact isKey_of_keyField keyOk
    next =>
      simp only [bind_eq_ok, pure_eq_ok] at rest
      obtain ⟨_, -, _, -, rfl⟩ := rest
      exact isKey_of_keyField keyOk
  | _ => exact absurd h error_ne_ok

theorem normalizeSchema_eq_ok (h : normalizeSchema schema = .ok entries) :
    entries ≠ [] ∧ ∀ entry ∈ entries, KeyValue.IsKey entry.key := by
  cases schema with
  | obj data =>
    obtain ⟨_, -, rest⟩ := bind_eq_ok.mp h
    split at rest
    next items _ =>
      obtain ⟨_, some, read⟩ := bind_eq_ok.mp rest
      obtain ⟨values, eq, length, each⟩ := forall_of_gather
        (fun _ _ _ _ one => isKey_of_normalizeEntry one) read
      rw [List.nil_append] at eq
      subst eq
      refine ⟨fun none => ?_, each⟩
      have positive := (require_eq_ok.mp some).1
      rw [← length, none] at positive
      exact absurd positive (by decide)
    next => exact absurd rest nofun
  | _ => exact absurd h nofun

/-- What one entry gives, and its line. -/
theorem renderEntry_eq_ok {entry : SchemaEntry} {rendered : List Char × Json}
    (h : renderEntry sha256 environment entry = .ok rendered) :
    ∃ value present, entryValue environment entry = .ok (value, present) ∧
      rendered.1 = entry.key.toList ++ '=' :: '"' :: (escape value.toList ++ ['"']) := by
  simp only [renderEntry, composeQuote, boundedValue, bind_eq_ok, pure_eq_ok] at h
  obtain ⟨⟨value, present⟩, one, _, ⟨_, ⟨_, -, _, -, rfl⟩, rfl⟩, rfl⟩ := h
  exact ⟨value, present, one, rfl⟩

/-- The line of a variable. -/
def lineOf (pair : String × String) : List Char :=
  pair.1.toList ++ '=' :: '"' :: (escape pair.2.toList ++ ['"'])

theorem isLine_lineOf (pair : String × String) : IsLine pair (lineOf pair) :=
  ⟨_, rfl, inner_escape pair.2⟩

theorem renderEntries_eq_ok {rendered : List (List Char × Json)}
    (h : entries.mapM (renderEntry sha256 environment) = .ok rendered) :
    ∃ pairs, entryPairs environment entries = .ok pairs ∧
      pairs.map Prod.fst = entries.map (·.key) ∧ rendered.map Prod.fst = pairs.map lineOf := by
  have each := mapM_eq_ok_iff.mp h
  clear h
  induction each with
  | nil => exact ⟨[], rfl, rfl, rfl⟩
  | @cons entry first entries rest one _ ih =>
    obtain ⟨pairs, values, keys, lines⟩ := ih
    obtain ⟨value, present, at_, line⟩ := renderEntry_eq_ok one
    refine ⟨(entry.key, value) :: pairs, ?_, ?_, ?_⟩
    · rw [entryPairs, List.mapM_cons, at_]
      exact bind_eq_ok.mpr ⟨_, rfl, bind_eq_ok.mpr ⟨pairs, values, rfl⟩⟩
    · rw [List.map_cons, List.map_cons, keys]
    · rw [List.map_cons, List.map_cons, lines, line]
      rfl

theorem intercalate_append_sep {sep : Char} {parts : List (List Char)} (some : parts ≠ []) :
    [sep].intercalate parts ++ [sep] = parts.flatMap (· ++ [sep]) := by
  induction parts with
  | nil => exact absurd rfl some
  | cons part rest ih =>
    cases rest with
    | nil => simp [List.intercalate]
    | cons next rest =>
      have joined : [sep].intercalate (part :: next :: rest) =
          part ++ sep :: [sep].intercalate (next :: rest) := rfl
      rw [joined, List.flatMap_cons, ← ih (List.cons_ne_nil _ _)]
      simp

theorem splitOn_lines {sep : Char} {lines : List (List Char)} (h : ∀ line ∈ lines, sep ∉ line) :
    KeyValue.splitOn sep (lines.flatMap (· ++ [sep])) = lines ++ [[]] := by
  induction lines with
  | nil => rfl
  | cons line rest ih =>
    rw [List.forall_mem_cons] at h
    rw [List.flatMap_cons, List.append_assoc, List.singleton_append,
      KeyValue.splitOn_append h.1, ih h.2]
    rfl

/-- A variable with its value as it stands in the file. -/
def quotedPair (pair : String × String) : String × String :=
  (pair.1, String.ofList ('"' :: (escape pair.2.toList ++ ['"'])))

theorem isKey_quotedPair {pair : String × String} (h : KeyValue.IsKey pair.1) :
    KeyValue.IsKey (quotedPair pair).1 := by
  rw [quotedPair]
  exact h

theorem writeLine_quotedPair (pair : String × String) :
    KeyValue.writeLine (quotedPair pair) = lineOf pair ++ ['\n'] := by
  rw [KeyValue.writeLine, quotedPair, lineOf, String.toList_ofList]
  simp

theorem oneLine_quotedPair (pair : String × String) : KeyValue.OneLine (quotedPair pair).2 := by
  have inner := inner_escape pair.2
  rw [KeyValue.OneLine, quotedPair, String.toList_ofList]
  simp [inner.lineFeed, inner.carriageReturn]

theorem lineFeed_not_mem_lineOf {pair : String × String} (h : KeyValue.IsKey pair.1) :
    '\n' ∉ lineOf pair := by
  have inner := inner_escape pair.2
  simp [lineOf, h.2.1, inner.lineFeed]

theorem decodeEnv_lines {pairs : List (String × String)} (h : ∀ pair ∈ pairs, KeyValue.IsKey pair.1) :
    decodeEnv ((pairs.map lineOf).flatMap (· ++ ['\n'])) = some pairs := by
  have written : (pairs.map lineOf).flatMap (· ++ ['\n']) = KeyValue.write (pairs.map quotedPair) := by
    rw [KeyValue.write, List.flatMap_map, List.flatMap_map]
    exact congrArg (List.flatMap · pairs) (funext fun pair => (writeLine_quotedPair pair).symm)
  have read : KeyValue.read (KeyValue.write (pairs.map quotedPair)) = pairs.map quotedPair := by
    refine KeyValue.read_write _ fun quoted mem => ?_
    obtain ⟨pair, inside, rfl⟩ := List.mem_map.mp mem
    exact ⟨isKey_quotedPair (h pair inside), oneLine_quotedPair pair⟩
  rw [decodeEnv, written, read]
  clear h written read
  induction pairs with
  | nil => rfl
  | cons pair pairs ih =>
    have one : unquote (quotedPair pair).2.toList = some pair.2.toList := by
      rw [quotedPair, String.toList_ofList, unquote_quoted, unescape_escape]
    rw [List.map_cons, List.mapM_cons, ih, one]
    simp [quotedPair, String.ofList_toList]

theorem renderEnv_eq_ok (h : renderEnv sha256 schema environment = .ok (text, metadata)) :
    ∃ entries pairs lines, normalizeSchema schema = .ok entries ∧
      entryPairs environment entries = .ok pairs ∧
      pairs.map Prod.fst = entries.map (·.key) ∧
      text = lines.flatMap (· ++ ['\n']) ∧ List.Forall₂ IsLine pairs lines ∧
      KeyValue.splitOn '\n' text = lines ++ [[]] ∧ decodeEnv text = some pairs := by
  simp only [renderEnv, bind_eq_ok, pure_eq_ok, Prod.mk.injEq] at h
  obtain ⟨entries, entriesOk, rendered, renderedOk, rfl, -⟩ := h
  obtain ⟨some, keys⟩ := normalizeSchema_eq_ok entriesOk
  obtain ⟨pairs, values, names, lines⟩ := renderEntries_eq_ok renderedOk
  have valid : ∀ pair ∈ pairs, KeyValue.IsKey pair.1 := by
    intro pair mem
    have name : pair.1 ∈ entries.map (·.key) := names ▸ List.mem_map_of_mem mem
    obtain ⟨entry, inside, same⟩ := List.mem_map.mp name
    exact same ▸ keys entry inside
  have nonempty : pairs.map lineOf ≠ [] := by
    intro none
    rw [List.map_eq_nil_iff] at none
    subst none
    exact some (List.map_eq_nil_iff.mp names.symm)
  rw [lines, intercalate_append_sep nonempty]
  refine ⟨entries, pairs, pairs.map lineOf, entriesOk, values, names, rfl, ?_, ?_, decodeEnv_lines valid⟩
  · rw [List.forall₂_map_right_iff, List.forall₂_same]
    exact fun pair _ => isLine_lineOf pair
  · refine splitOn_lines fun line mem => ?_
    obtain ⟨pair, inside, rfl⟩ := List.mem_map.mp mem
    exact lineFeed_not_mem_lineOf (valid pair inside)

/-- An environment file has one line for each entry, and the key and the value of each entry are
read back from it; so whatever has the same text has the same variables. -/
theorem renderEnv_decodes (h : renderEnv sha256 schema environment = .ok (text, metadata)) :
    ∃ entries pairs lines, normalizeSchema schema = .ok entries ∧
      entryPairs environment entries = .ok pairs ∧
      pairs.map Prod.fst = entries.map (·.key) ∧
      text = lines.flatMap (· ++ ['\n']) ∧ List.Forall₂ IsLine pairs lines ∧
      KeyValue.splitOn '\n' text = lines ++ [[]] ∧ decodeEnv text = some pairs ∧
      ∀ schema' environment' metadata',
        renderEnv sha256 schema' environment' = .ok (text, metadata') →
          ∃ entries', normalizeSchema schema' = .ok entries' ∧
            entryPairs environment' entries' = .ok pairs := by
  obtain ⟨entries, pairs, lines, entriesOk, values, names, written, each, split, decoded⟩ :=
    renderEnv_eq_ok h
  refine ⟨entries, pairs, lines, entriesOk, values, names, written, each, split, decoded, ?_⟩
  intro schema' environment' metadata' h'
  obtain ⟨entries', pairs', -, entriesOk', values', -, -, -, -, decoded'⟩ := renderEnv_eq_ok h'
  cases decoded.symm.trans decoded'
  exact ⟨entries', entriesOk', values'⟩

/-- A variable with a quote, a line feed and a dollar sign, and one with a default. -/
def sampleSchema : Json :=
  .obj [("version", .int 1), ("entries", .arr
    [.obj [("key", .str "TEXT"), ("env", .str "SOURCE")],
      .obj [("key", .str "PORT"), ("env", .str "NONE"), ("secret", .bool false),
        ("default", .str "80")]])]

def sampleEnvironment (name : String) : Option String :=
  if name = "SOURCE" then some "\"x\\\n$y" else none

def sampleText : List Char := "TEXT=\"\\\"x\\\\\\n$$y\"\nPORT=\"80\"\n".toList

theorem renderEnv_decodes_sample : ∃ pairs, decodeEnv sampleText = some pairs ∧
    pairs.map Prod.fst = ["TEXT", "PORT"] := by
  obtain ⟨entries, pairs, lines, entriesOk, -, names, -, -, -, decoded, -⟩ :=
    @renderEnv_decodes id sampleSchema sampleEnvironment sampleText
      [.obj [("key", .str "TEXT"), ("key_sha256", .str "TEXT"), ("source_kind", .str "env"),
        ("required", .bool false), ("secret", .bool true), ("present", .bool true)],
        .obj [("key", .str "PORT"), ("key_sha256", .str "PORT"), ("source_kind", .str "env"),
          ("required", .bool false), ("secret", .bool false), ("present", .bool true)]] rfl
  refine ⟨pairs, decoded, names.trans ?_⟩
  have read : normalizeSchema sampleSchema = .ok [⟨"TEXT", .env "SOURCE" none, false, true⟩,
      ⟨"PORT", .env "NONE" (some "80"), false, false⟩] := rfl
  rw [← Except.ok.inj (read.symm.trans entriesOk)]
  rfl

end Render

end OptimizrActions.EnvWriter
