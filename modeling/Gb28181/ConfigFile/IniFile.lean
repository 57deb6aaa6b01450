import Mathlib.Data.Char
import Mathlib.Data.List.Lex
import Gb28181.Lib.OrderedMap
import Gb28181.Lib.TextFile

namespace Gb28181.ConfigFile

open Gb28181.Lib

def trimright (str : Text) (c : Char) : Text := str.rdropWhile (· = c)

def trim : Text → Text := strip isSpace

def delim : Text := ['\n']

def mNote : Text := [';']

def mDelimTab : Text := [' ', ' ', ' ', ' ']

structure IniItem where
  key : Text
  value : Text
  comment : Text
  deriving DecidableEq

structure IniSection where
  name : Text
  comment : Text
  items : List IniItem
  deriving DecidableEq

abbrev Sections := OrderedMap Text IniSection

/-- The comment flags of the constructor. -/
def flags : List Text := [['#'], [';']]

def isComment (str : Text) : Bool := flags.any (·.isPrefixOf str)

/-- What `parse` makes of a line: nothing, an exception, or the key and the value with the comment
that goes with them. -/
inductive Parsed where
  | failed
  | thrown
  | pair (key value comment : Text)
  deriving DecidableEq

def parse (content comment : Text) : Parsed :=
  match content.dropWhile (· ≠ '=') with
  | [] => .failed
  | _ :: value =>
    let key := trim (content.takeWhile (· ≠ '='))
    let kept := value.takeWhile (fun char => char ≠ ';' ∧ char ≠ '#')
    if kept.length + 1 < value.length then
      -- the constructor of a substring throws where it begins behind the end
      if (cString value).length < kept.length + 1 then .thrown
      else
        .pair key (trim kept) (comment ++
          (((cString value).drop (kept.length + 1)).take (value.length - 1) ++ delim))
    else .pair key (trim kept) comment

/-- How `openini` ends. -/
inductive Outcome where
  | returned (ret : Int) (sections : Sections)
  /-- The section pointer is null where an item goes into the section. -/
  | nullSection
  | thrown
  deriving DecidableEq

/-- The sections, the name of the one that `section` points to, and the comment for what
comes next. -/
structure Reader where
  sections : Sections
  sect : Option Text
  comment : Text

/-- A line that begins with `[`. -/
def readHeader (reader : Reader) (line : Text) : Except Outcome Reader :=
  match line.idxOf? ']' with
  | none => .error (.returned (-1) reader.sections)
  | some index =>
    let len := index - 1
    if len ≤ 0 then .ok { reader with sect := none }
    else
      let s := (line.drop 1).take len
      if (reader.sections.find (cString s)).isSome then .error (.returned (-1) reader.sections)
      else
        let sectionRight := trim (line.drop (index + 1))
        let comment :=
          if index + 1 < line.length ∧ isComment sectionRight then
            reader.comment ++ (sectionRight ++ delim)
          else reader.comment
        .ok ⟨reader.sections.assign s ⟨s, comment, []⟩, some s, []⟩

/-- A line that is no header and no comment. -/
def readItem (reader : Reader) (line : Text) : Except Outcome Reader :=
  match parse line reader.comment with
  | .thrown => .error .thrown
  | .failed => .ok { reader with comment := [] }
  | .pair key value comment =>
    match reader.sect with
    | none => .error .nullSection
    | some name =>
      .ok { reader with
        sections := reader.sections.modify name fun sect =>
          { sect with items := sect.items ++ [⟨key, value, comment⟩] }
        comment := [] }

/-- The body of the loop of `openini`. -/
def readLine (reader : Reader) (line : Text) : Except Outcome Reader :=
  let line := trim (trimright (trimright line '\n') '\r')
  if line.length ≤ 0 then .ok reader
  else if line.head? = some '[' then readHeader reader line
  else if isComment line then .ok { reader with comment := reader.comment ++ (line ++ delim) }
  else readItem reader line

/-- The reader before the first line: there is a section without a name. -/
def Reader.start : Reader := ⟨OrderedMap.empty.assign [] ⟨[], [], []⟩, some [], []⟩

def openini (strIniData : Text) : Outcome :=
  match (getlines strIniData).foldlM readLine Reader.start with
  | .ok reader => .returned 0 reader.sections
  | .error outcome => outcome

def saveComment (comment : Text) : Text :=
  if comment ≠ [] then
    (if comment.head? ≠ some ';' then mNote else []) ++ (comment ++ delim)
  else []

def saveItem (item : IniItem) : Text :=
  saveComment item.comment ++ (mDelimTab ++ (item.key ++ '=' :: item.value ++ delim))

def saveSection (entry : Text × IniSection) : Text :=
  saveComment entry.2.comment ++
    ((if entry.1 ≠ [] then '[' :: entry.1 ++ [']'] ++ delim else []) ++
      entry.2.items.flatMap saveItem)

/-- The text that `saveas` writes. -/
def saveas (sections : Sections) : Text := sections.entries.flatMap saveSection

/-- `getValue` with the comment; nothing is `RET_ERR`. -/
def getValueComment (sections : Sections) (sect key : Text) : Option (Text × Text) :=
  (sections.find sect).bind fun sect =>
    (sect.items.find? (·.key = key)).map fun item => (item.value, item.comment)

def getValue (sections : Sections) (sect key : Text) : Option Text :=
  (getValueComment sections sect key).map Prod.fst

/-- The loop of `setValue` over the items, and the item it appends where none has the key. -/
def setItem (key value comt : Text) : List IniItem → List IniItem
  | [] => [⟨key, value, comt⟩]
  | item :: items =>
    if item.key = key then { item with value := value, comment := comt } :: items
    else item :: setItem key value comt items

def setValue (sections : Sections) (sect key value comment : Text) : Sections :=
  let comt := if comment ≠ [] then flags.headD [] ++ comment else comment
  let sections :=
    if (sections.find sect).isNone then sections.assign sect ⟨sect, [], []⟩ else sections
  sections.modify sect fun there => { there with items := setItem key value comt there.items }

end Gb28181.ConfigFile
