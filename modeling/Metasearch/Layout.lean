/-
Date layouts. A layout shows how a site writes dates by writing out one fixed reference time,
Monday the second of January 2006 at five seconds past 15:04 in the zone MST, which is seven
hours behind UTC. Each part of that time stands for the same part of any other; everything else
in a layout is copied. A layout is used by turning it into a date pattern.
-/
import Metasearch.Calendar.Reader
import Metasearch.Calendar.Writer

namespace Metasearch.Layout

open Calendar (Instant Timestamp)

/-- The parts of the reference time and what stands for them in a date pattern; of two that begin
alike the longer comes first. -/
def tokens : List (String × String) :=
  [("January", "%B"), ("Jan", "%b"), ("Monday", "%A"), ("Mon", "%a"), ("MST", "%Z"),
   ("2006", "%Y"), ("-07:00:00", "%:z"), ("-070000", "%z"), ("-07:00", "%:z"), ("-0700", "%z"),
   ("-07", "%#z"), ("Z07:00", "%:z"), ("Z0700", "%z"), ("Z07", "%#z"),
   (".000000000", "%.9f"), (".000000", "%.6f"), (".000", "%.3f"), (".999999999", "%.f"),
   (".999999", "%.f"), (".999", "%.f"), ("002", "%j"), ("_2", "%e"), ("01", "%m"), ("02", "%d"),
   ("03", "%I"), ("04", "%M"), ("05", "%S"), ("06", "%y"), ("15", "%H"), ("PM", "%p"),
   ("pm", "%P"), ("1", "%-m"), ("2", "%-d"), ("3", "%-I"), ("4", "%-M"), ("5", "%-S")]

/-- The first part of the reference time that the text begins with: its length, and what stands
for it. -/
def tokenAt? (text : List Char) : Option (Nat × List Char) :=
  tokens.findSome? fun (token, directive) =>
    if token.toList.isPrefixOf text then some (token.toList.length, directive.toList) else none

/-- A character of a layout that belongs to no part of the reference time. -/
def copied (c : Char) : List Char :=
  if c == '%' then ['%', '%'] else [c]

/-- The date pattern of a layout; the first `skip` characters belong to a part already found. -/
def patternFrom (skip : Nat) : List Char → List Char
  | [] => []
  | c :: rest =>
    match skip with
    | skip + 1 => patternFrom skip rest
    | 0 =>
      match tokenAt? (c :: rest) with
      | some (length, directive) => directive ++ patternFrom (length - 1) rest
      | none => copied c ++ patternFrom 0 rest

/-- The date pattern of a layout. -/
def pattern (layout : String) : String :=
  String.ofList (patternFrom 0 layout.toList)

/-- The date pattern that a layout is written with: an offset that may be read with its minutes
missing is written in full. -/
def writingPattern (layout : String) : String :=
  String.ofList (Text.replaceAll ['%', '#', 'z'] ['%', 'z'] (pattern layout).toList)

/-- Reads a point in time with a date pattern made from a layout. -/
def read? (text pattern : String) : Option Timestamp :=
  Calendar.readLoosely? (Calendar.itemsOf pattern) text

/-- Writes an instant with a layout, in UTC. -/
def write (instant : Instant) (layout : String) : String :=
  Calendar.writeWith (Calendar.itemsOf (writingPattern layout)) "UTC" ⟨instant, 0⟩

end Metasearch.Layout
