import Mathlib.Data.Rat.Defs
import Mathlib.Algebra.Order.Ring.Rat
import OptimizrActions.Lib.Json
import OptimizrActions.Lib.Text

/-! The two checks of the vulnerability database's age: the one that decides on a download, and
the one that the gate makes before a scan. -/

namespace OptimizrActions.SecurityGate

/-- What `datetime.fromisoformat` reads: a clock in microseconds from the beginning of year one,
and its offset from UTC. -/
structure Stamp where
  clock : Int
  offset : Option Int
  deriving DecidableEq

/-- The first microsecond after year 9999. -/
def clockEnd : Int := 3652059 * 86400 * 1000000

inductive TimeError
  | notText
  | notIso
  | overflow
  deriving DecidableEq

/-- `value.astimezone(timezone.utc)` for an aware time. -/
def inUtc (clock offset : Int) : Except TimeError Int :=
  if 0 ≤ clock - offset ∧ clock - offset < clockEnd then .ok (clock - offset) else .error .overflow

/-- A time without an offset is read as UTC. -/
def Stamp.assumeUtc (stamp : Stamp) : Except TimeError Int :=
  match stamp.offset with
  | none => .ok stamp.clock
  | some offset => inUtc stamp.clock offset

def isDecimal (c : Char) : Bool := (Text.decimal? c).isSome

/-- The digits behind the sixth one of a fraction, and what follows them. -/
def afterExcess (fraction : List Char) : Option (List Char) :=
  if 7 ≤ (fraction.takeWhile isDecimal).length then some (fraction.dropWhile isDecimal) else none

/-- `_EXCESS_FRACTIONAL_SECONDS_RE` of the cache: the first fraction, wherever it stands. -/
def dropExcess : List Char → List Char
  | [] => []
  | c :: text =>
    match (if c = '.' then afterExcess text else none) with
    | some after => c :: (text.take 6 ++ after)
    | none => c :: dropExcess text

/-- `(?:Z|[+-]\d{2}:?\d{2})?$` -/
def isZone : List Char → Bool
  | [] => true
  | ['Z'] => true
  | [sign, a, b, c, d] => sign ∈ ['+', '-'] && [a, b, c, d].all isDecimal
  | [sign, a, b, colon, c, d] => sign ∈ ['+', '-'] && colon = ':' && [a, b, c, d].all isDecimal
  | _ => false

/-- `_EXCESS_FRACTIONAL_SECONDS` of the evidence: a fraction before the offset at the end. -/
def dropExcessAtEnd : List Char → List Char
  | [] => []
  | c :: text =>
    match (if c = '.' then (afterExcess text).filter isZone else none) with
    | some after => c :: (text.take 6 ++ after)
    | none => c :: dropExcessAtEnd text

/-- A final `Z` is written as an offset. -/
def zulu (text : List Char) : List Char :=
  if text.getLast? = some 'Z' then text.dropLast ++ "+00:00".toList else text

/-- The age limit, a float. -/
inductive Limit
  | finite (hours : Rat)
  | infinity
  | negativeInfinity
  | nan

/-- `age_hours` of a time that lies this many microseconds back. -/
def ageHours (microseconds : Int) : Rat := (microseconds : Rat) / 3600000000

structure Database where
  /-- `is_file()` and `is_symlink()` of `metadata.json` and of `trivy.db` -/
  metadataFile : Bool
  metadataLink : Bool
  databaseFile : Bool
  databaseLink : Bool
  /-- `json.loads` of the metadata; `none` where reading or decoding fails -/
  metadata : Option Json

inductive CacheError
  | maxAgeHours
  | overflow
  deriving DecidableEq

inductive EvidenceError
  | maxAgeHours
  | missing
  | invalid
  | notObject
  | timestamp (field : String)
  | notIso (field : String)
  | overflow
  | future
  | tooOld
  | version
  deriving DecidableEq

structure DatabaseEvidence where
  version : Json
  updatedAt : Int
  nextUpdate : Int
  downloadedAt : Int
  ageHours : Rat

section Time

-- `datetime.fromisoformat`, and the offset of the system's zone at a local clock.
variable (fromisoformat : String → Option Stamp) (localOffset : Int → Int)

/-- Both parsers, which differ in how they shorten a fraction. -/
def readTime (normalize : List Char → List Char) (value : Json) : Except TimeError Int :=
  match value with
  | .str s =>
    if Text.strip s = "" then .error .notText
    else
      match fromisoformat (String.ofList (zulu (normalize (Text.strip s).toList))) with
      | none => .error .notIso
      | some stamp => stamp.assumeUtc
  | _ => .error .notText

/-- `_parse_timestamp` of the cache -/
def parseTimestamp (value : Json) : Except TimeError Int := readTime fromisoformat dropExcess value

def databaseIsComplete (database : Database) : Bool :=
  database.metadataFile && !database.metadataLink && database.databaseFile && !database.databaseLink

/-- `type(content.get("Version")) is int and content["Version"] >= 1` -/
def isVersion : Json → Bool
  | .int n => decide (1 ≤ n)
  | _ => false

def databaseIsFresh (database : Database) (limit : Limit) (now : Stamp) : Except CacheError Bool :=
  match limit with
  | .finite hours =>
    if hours ≤ 0 then .error .maxAgeHours
    else if databaseIsComplete database = false then .ok false
    else
      match database.metadata with
      | some (.obj fields) =>
        let content : Mapping := fields
        if isVersion (content.get "Version") = false then .ok false
        else
          match parseTimestamp fromisoformat (content.get "DownloadedAt") with
          | .ok downloadedAt =>
            match now.assumeUtc with
            | .ok reference =>
              .ok (decide (0 ≤ ageHours (reference - downloadedAt)) &&
                decide (ageHours (reference - downloadedAt) ≤ hours))
            | .error _ => .error .overflow
          | .error .overflow => .error .overflow
          | .error _ => .ok false
      | _ => .ok false
  | _ => .error .maxAgeHours

/-- `_parse_datetime` of the evidence -/
def parseDatetime (value : Json) (field : String) : Except EvidenceError Int :=
  match readTime fromisoformat dropExcessAtEnd value with
  | .ok time => .ok time
  | .error .notText => .error (.timestamp field)
  | .error .notIso => .error (.notIso field)
  | .error .overflow => .error .overflow

/-- `(now or …).astimezone(timezone.utc)`: a time without an offset is local time. -/
def referenceTime (now : Stamp) : Except EvidenceError Int :=
  match inUtc now.clock (now.offset.getD (localOffset now.clock)) with
  | .ok reference => .ok reference
  | .error _ => .error .overflow

/-- `max_age_hours <= 0` -/
def Limit.nonpositive : Limit → Bool
  | .finite hours => decide (hours ≤ 0)
  | .negativeInfinity => true
  | _ => false

/-- `age_hours > max_age_hours` -/
def Limit.exceeded (age : Rat) : Limit → Bool
  | .finite hours => decide (hours < age)
  | .negativeInfinity => true
  | _ => false

/-- `isinstance(version, int) and version >= 1`, where `True` is one. -/
def isPositive : Json → Bool
  | .int n => decide (1 ≤ n)
  | .bool b => b
  | _ => false

def validateDbMetadata (database : Database) (limit : Limit) (now : Stamp) :
    Except EvidenceError DatabaseEvidence :=
  if limit.nonpositive then .error .maxAgeHours
  else if database.metadataFile = false then .error .missing
  else
    match database.metadata with
    | none => .error .invalid
    | some (.obj fields) => do
      let raw : Mapping := fields
      let reference ← referenceTime localOffset now
      let updatedAt ← parseDatetime fromisoformat (raw.get "UpdatedAt") "UpdatedAt"
      let nextUpdate ← parseDatetime fromisoformat (raw.get "NextUpdate") "NextUpdate"
      let downloadedAt ← parseDatetime fromisoformat (raw.get "DownloadedAt") "DownloadedAt"
      if reference < downloadedAt then .error .future
      else if limit.exceeded (ageHours (reference - downloadedAt)) then .error .tooOld
      else if isPositive (raw.get "Version") = false then .error .version
      else .ok ⟨raw.get "Version", updatedAt, nextUpdate, downloadedAt,
        ageHours (reference - downloadedAt)⟩
    | some _ => .error .notObject

end Time

end OptimizrActions.SecurityGate
