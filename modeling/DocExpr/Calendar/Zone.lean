import DocExpr.Calendar.Date
import DocExpr.Number.Literal
import DocExpr.Text.Blank
import DocExpr.Text.Bytes
import DocExpr.Text.Occurrence

/-! Fixed offsets from universal time. -/
namespace DocExpr.Calendar

/-- The text behind a `UTC` or `GMT`, if it starts with one. -/
def behindName (cs : List Char) : List Char :=
  match Text.dropPrefix? "UTC".toList cs with
  | some rest => rest
  | none => (Text.dropPrefix? "GMT".toList cs).getD cs

/-- The texts of the hours and the minutes behind the sign of an offset. Colons are passed over, and
what is left has one or two bytes of hours, or two of hours and two of minutes. -/
def clockTexts (zone : String) (cs : List Char) : Except Fault (List Char × List Char) :=
  let digits := cs.filter (· != ':')
  match Text.byteCount digits with
  | 1 | 2 => .ok (digits, ['0'])
  | 4 =>
    match Text.cutBytes? 2 digits with
    | some parts => .ok parts
    | none => .error (.cutCharacter zone)
  | _ => .error (.badZone zone)

/-- The seconds that hours and minutes behind a sign make. -/
def signedSeconds (sign : Char) (hours minutes : Int) : Int :=
  if sign = '-' then -(hours * 3600 + minutes * 60) else hours * 3600 + minutes * 60

/-- The seconds east of universal time that a text names: nothing, `Z`, or a sign with hours and
perhaps minutes, each of them behind an optional `UTC` or `GMT`. -/
def parseOffset (zone : String) : Except Fault Int :=
  match behindName (Text.trim zone.toList) with
  | [] | ['Z'] => .ok 0
  | sign :: rest =>
    if sign ≠ '+' ∧ sign ≠ '-' then .error (.badZone zone)
    else
      match clockTexts zone rest with
      | .error fault => .error fault
      | .ok (hours, minutes) =>
        match Number.wholeNumber? hours, Number.wholeNumber? minutes with
        | some h, some m =>
          if h ≤ 18 ∧ m < 60 then .ok (signedSeconds sign h m) else .error (.badZone zone)
        | _, _ => .error (.badZone zone)

end DocExpr.Calendar
