import AutoProxy.Calendar.Timestamp
import AutoProxy.Web.Message

/-!
When a response expires. The first `Cache-Control` field decides if one of its directives does,
the first such directive counting; otherwise the first `Expires` field does, and a date there
that cannot be read means that the response has expired already.
-/

/-! ## Dates

Dates as mail and web headers write them, `Mon, 19 Oct 2026 12:05:00 GMT`: an optional day of
the week that has to be right, the date, the time of day with or without seconds, a zone, and
comments in parentheses. Two-digit years below 50 belong to this century, other short years to
the last one.
-/

namespace AutoProxy.Calendar.MailDate

/-- The rest of the text after one blank at least, and all that follow it. -/
def blanks? (cs : List Char) : Option (List Char) :=
  match cs with
  | c :: rest => if Text.isBlank c then some (Text.trimStart rest) else none
  | [] => none

/-- A number of `least` to `most` digits: its value, the count of its digits and the rest. -/
def number? (least most : Nat) (cs : List Char) : Option (Nat × Nat × List Char) :=
  let shown := (cs.takeWhile fun c => (Number.digitOf? 10 c).isSome).take most
  if shown.length < least then none
  else (Number.ofDigits? 10 shown).map fun n => (n, shown.length, cs.drop shown.length)

/-- The place in a list of words of the one that starts the text, in any case of its letters. -/
def word? (cs : List Char) : List String → Option (Nat × List Char)
  | [] => none
  | w :: ws =>
    if Text.startsWithIgnoringCase w.toList cs then some (0, cs.drop w.length)
    else (word? cs ws).map fun (i, rest) => (i + 1, rest)

/-- Abbreviations of the days of the week, from Sunday. -/
def dayNames : List String := ["sun", "mon", "tue", "wed", "thu", "fri", "sat"]

def monthNames : List String :=
  ["jan", "feb", "mar", "apr", "may", "jun", "jul", "aug", "sep", "oct", "nov", "dec"]

/-- The year meant by a number with so many digits. -/
def fullYear (year digits : Nat) : Nat :=
  if digits = 2 then (if year < 50 then year + 2000 else year + 1900)
  else if digits = 3 then year + 1900
  else year

/-- The offset of a zone given by name, in seconds. A single letter other than `J` means an
unknown zone and counts as universal time. -/
def namedZone? (name : List Char) : Option Int :=
  let hours (h : Int) : Option Int := some (h * 3600)
  match String.ofList (Text.toLower name) with
  | "gmt" | "ut" | "z" => hours 0
  | "edt" => hours (-4)
  | "est" | "cdt" => hours (-5)
  | "cst" | "mdt" => hours (-6)
  | "mst" | "pdt" => hours (-7)
  | "pst" => hours (-8)
  | "j" => none
  | _ => if name.length = 1 then some 0 else none

/-- A zone: a name, or a sign with two digits of hours and two of minutes. -/
def zone? (cs : List Char) : Option (Int × List Char) :=
  let name := cs.takeWhile Char.isAlpha
  let rest := cs.dropWhile Char.isAlpha
  if !name.isEmpty then (namedZone? name).map fun o => (o, rest)
  else
    let signed (sign : Int) (cs : List Char) : Option (Int × List Char) := do
      let (hours, _, cs) ← number? 2 2 cs
      match Timestamp.offsetMinutes cs with
      | .ok (minutes, cs) => return (sign * ((hours : Int) * 3600 + (minutes : Int) * 60), cs)
      | .error _ => none
    match cs with
    | '+' :: cs => signed 1 cs
    | '-' :: cs => signed (-1) cs
    | _ => none

/-- What follows a comment, of which `depth` parentheses are open; a backslash takes the
character after it as it is. -/
def closeComment? : Nat → List Char → Option (List Char)
  | _, [] => none
  | depth, '\\' :: _ :: cs => closeComment? depth cs
  | _, ['\\'] => none
  | depth, '(' :: cs => closeComment? (depth + 1) cs
  | depth, ')' :: cs => if depth = 1 then some cs else closeComment? (depth - 1) cs
  | depth, _ :: cs => closeComment? depth cs

/-- What follows all comments; the count of rounds is bounded by the length of the text. -/
def skipComments : Nat → List Char → List Char
  | 0, cs => cs
  | rounds + 1, cs =>
    match Text.trimStart cs with
    | '(' :: rest =>
      match closeComment? 1 rest with
      | some rest => skipComments rounds rest
      | none => cs
    | _ => cs

/-- An optional second after the minute. -/
def second? (cs : List Char) : Option (Nat × List Char) :=
  match Text.trimStart cs with
  | ':' :: rest => (number? 2 2 rest).map fun (n, _, rest) => (n, rest)
  | _ => some (0, cs)

/-- The day of the week, if the text begins with one: it needs a comma after it. -/
def weekday? (cs : List Char) : Option (Option Nat × List Char) :=
  match word? cs dayNames with
  | some (day, ',' :: rest) => some (some day, rest)
  | some _ => none
  | none => some (none, cs)

def read? (cs : List Char) : Option Instant := do
  let (weekday, cs) ← weekday? (Text.trimStart cs)
  let (day, _, cs) ← number? 1 2 (Text.trimStart cs)
  let (month, cs) ← word? (← blanks? cs) monthNames
  let (year, yearDigits, cs) ← number? 2 cs.length (← blanks? cs)
  let (hour, _, cs) ← number? 2 2 (← blanks? cs)
  let cs ← match Text.trimStart cs with
    | ':' :: rest => some (Text.trimStart rest)
    | _ => none
  let (minute, _, cs) ← number? 2 2 cs
  let (second, cs) ← second? cs
  let (offset, cs) ← zone? (← blanks? cs)
  let date ← Date.ofFields? (fullYear year yearDigits) (month + 1) day
  let (second, nano) ← Timestamp.timeOfDay? hour minute second 0
  if !(skipComments cs.length cs).isEmpty then none
  if weekday.any (· != date.weekday) then none
  if offset.natAbs < 86400 then
    (Moment.shift? ⟨date, second, nano⟩ (-offset)).map fun m => ⟨m, offset⟩
  else none

end AutoProxy.Calendar.MailDate

/-! ## The expiry of a response -/

namespace AutoProxy.Web.Expiry

open Calendar

/-- A directive that decides. -/
inductive Directive where
  /-- The response is not to be kept. -/
  | discard
  /-- The response may be kept for so many seconds. -/
  | keep (seconds : Int)
deriving DecidableEq, Repr

/-- The text without the quotation marks at either end. -/
def unquoted (cs : List Char) : List Char :=
  ((cs.dropWhile (· == '"')).reverse.dropWhile (· == '"')).reverse

/-- What a directive decides; blanks around it and the case of its letters do not matter. -/
def Directive.ofChars? (cs : List Char) : Option Directive :=
  let word := Text.toLower (Text.trim cs)
  if word = "no-cache".toList ∨ word = "no-store".toList then some discard
  else
    (Text.dropPrefix? "max-age=".toList word).bind fun age =>
      (Number.signed64? (unquoted age)).map keep

def deciding? (value : List Char) : Option Directive :=
  (Text.split ',' value).findSome? Directive.ofChars?

/-- The instant until which a directive lets a response be kept; there is none when it would lie
outside the calendar. -/
def Directive.instant? (now : Instant) : Directive → Option Instant
  | discard => some now
  | keep seconds => (Delta.ofSeconds? (max seconds 0)).bind now.add?

/-- The instant of an `Expires` field, or the present for one that is no date. -/
def dateOrNow (now : Instant) (value : List Char) : Instant :=
  match MailDate.read? (Text.trim value) with
  | some at_ => at_.toUtc
  | none => now

/-- What a response says about its expiry. -/
inductive Announced where
  /-- It says nothing. -/
  | never
  | on (at_ : Instant)
  /-- The instant that it names lies outside the calendar. -/
  | outOfCalendar
deriving DecidableEq, Repr

/-- The expiry that the header fields of a response announce, in universal time. -/
def announced (headers : List Header) (now : Instant) : Announced :=
  let now := now.toUtc
  match ((Header.find? "Cache-Control" headers).bind Header.text?).bind deciding? with
  | some directive =>
    match directive.instant? now with
    | some at_ => .on at_
    | none => .outOfCalendar
  | none =>
    match (Header.find? "Expires" headers).bind Header.text? with
    | some value => .on (dateOrNow now value)
    | none => .never

/-- Whether something that expires at the given instant, or never, has expired; it has at that
very instant. -/
def hasPassed (expires : Option Instant) (now : Instant) : Bool :=
  match expires with
  | some at_ => at_.le now
  | none => false

end AutoProxy.Web.Expiry
