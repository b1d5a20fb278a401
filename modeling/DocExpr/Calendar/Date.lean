import DocExpr.Calendar.Instant

/-! Dates: an instant together with the way it was given. A date without a zone is read as
universal time, so every date is an instant. -/
namespace DocExpr.Calendar

/-- The way a date was given. -/
inductive Kind where
  | dateTime
  | localDateTime
  | localDate
  | localTime
  deriving DecidableEq, Repr

def Kind.name : Kind → String
  | .dateTime => "DateTime"
  | .localDateTime => "LocalDateTime"
  | .localDate => "LocalDate"
  | .localTime => "LocalTime"

structure Date where
  instant : Instant
  kind : Kind
  deriving DecidableEq, Repr

/-- What is wrong with a request about dates. -/
inductive Fault where
  /-- The result is not represented. -/
  | outOfRange (request : String)
  /-- The field is none of those that can be set. -/
  | unknownField (field : String)
  /-- The pattern has an item that means nothing. -/
  | badPattern (pattern : String)
  /-- The zone is no fixed offset. -/
  | badZone (zone : String)
  /-- The hours of the zone would end inside a character. Nothing is answered to that: the
  evaluation breaks off. -/
  | cutCharacter (zone : String)
  deriving DecidableEq, Repr

def Fault.message : Fault → String
  | .outOfRange request => "Out of range: " ++ request
  | .unknownField field => "Format error: unknown field " ++ field
  | .badPattern pattern => "Format error: " ++ pattern
  | .badZone zone => "Parse error: unsupported time zone '" ++ zone ++ "'"
  | .cutCharacter zone => "Broken off: time zone '" ++ zone ++ "' is cut inside a character"

end DocExpr.Calendar
