import Gb28181.Lib.Text
import Gb28181.Osip.Message

/-! `eXtl_tcp.c`: how the messages are taken out of what a connection receives. -/

namespace Gb28181.Exosip

open Gb28181.Lib Gb28181.Osip

def osipStrncpy (src : Text) (length : Nat) : Text :=
  let copied := (cString src).take length
  copied ++ List.replicate (length - copied.length) '\x00'

def osipStrcasestr (haystack needle : Text) : Option Nat :=
  strstr ((cString haystack).map Char.toLower) (needle.map Char.toLower)

def findEndSip (previousContent : Text) : Option Nat :=
  strstr (cString previousContent) ['\r', '\n', '\r', '\n']

/-- One search for the header with the length, made again where the one before found nothing
before the end of the headers. -/
def searchAgain (previousContent : Text) (endSip : Nat) (needle : Text) (clHeader : Option Nat) :
    Option Nat :=
  if clHeader.all (· > endSip) then osipStrcasestr previousContent needle else clHeader

/-- The colon of the header with the length. -/
def findClHeader (previousContent : Text) (endSip : Nat) : Option Nat :=
  let clHeader := osipStrcasestr previousContent "\ncontent-length ".toList
  let clHeader := searchAgain previousContent endSip "\ncontent-length:".toList clHeader
  let clHeader := searchAgain previousContent endSip "\r\nl ".toList clHeader
  let clHeader := searchAgain previousContent endSip "\r\nl:".toList clHeader
  clHeader.bind (fun offset =>
    if offset < endSip then
      (strstr ((cString previousContent).drop offset) [':']).map (offset + ·)
    else some offset)

/-- What the loop does with the content it has: the size of a message, of what is thrown away
for want of a length, or nothing as long as the message is not complete. -/
inductive Look where
  | message (size : Nat)
  | broken (size : Nat)
  | uncomplete
  deriving DecidableEq

def look (previousContent : Text) : Look :=
  match findEndSip previousContent with
  | none => .uncomplete
  | some endSip =>
    match findClHeader previousContent endSip with
    | none => .broken (endSip + 4)
    | some clHeader =>
      if clHeader ≥ endSip then .broken (endSip + 4)
      else
        let clSize := atoi (cString (previousContent.drop (clHeader + 1)))
        if clSize = 0 ∨ clSize > 0 ∧ endSip + 4 + clSize ≤ previousContent.length then
          .message (endSip + 4 + clSize.toNat)
        else .uncomplete

theorem length_of_occurs {text name : Text} {offset : Nat} (occurs : Occurs text name offset) :
    name = [] ∨ offset + name.length ≤ text.length := by
  have length := occurs.length_le
  rw [List.length_drop] at length
  rcases Nat.eq_zero_or_pos name.length with none | some
  · exact .inl (List.eq_nil_of_length_eq_zero none)
  · exact .inr (by omega)

theorem endSip_inside {previousContent : Text} {endSip : Nat}
    (found : findEndSip previousContent = some endSip) : endSip + 4 ≤ previousContent.length := by
  rcases length_of_occurs (occurs_of_strstr found).1 with none | inside
  · exact nomatch none
  · exact inside.trans (List.takeWhile_prefix _).length_le

/-- What is passed on or thrown away is a part of the content that is not empty. -/
theorem look_inside {previousContent : Text} {size : Nat}
    (looked : look previousContent = .message size ∨ look previousContent = .broken size) :
    4 ≤ size ∧ size ≤ previousContent.length := by
  unfold look at looked
  split at looked
  · exact looked.elim nofun nofun
  · rename_i endSip found
    have inside := endSip_inside found
    split at looked
    · rcases looked with looked | looked
      · exact nomatch looked
      · cases looked
        exact ⟨Nat.le_add_left .., inside⟩
    · split at looked
      · rcases looked with looked | looked
        · exact nomatch looked
        · cases looked
          exact ⟨Nat.le_add_left .., inside⟩
      · dsimp only at looked
        split at looked
        · rename_i whole
          rcases looked with looked | looked
          · cases looked
            omega
          · exact nomatch looked
        · exact looked.elim nofun nofun

/-- The reassembly loop: the messages passed to `_eXosip_handle_incoming_message`, and the
content that is kept. -/
def reassemble (previousContent : Text) : Option Text × List Text :=
  match looked : look previousContent with
  | .uncomplete => (some previousContent, [])
  | .broken size => reassemble (previousContent.drop size)
  | .message size =>
    let message := previousContent.take size
    if previousContent.length - size = 0 then (none, [message])
    else
      let later := reassemble (previousContent.drop size)
      (later.1, message :: later.2)
termination_by previousContent.length
decreasing_by
  · have inside := look_inside (.inr looked)
    rw [List.length_drop]
    omega
  · have inside := look_inside (.inl looked)
    rw [List.length_drop]
    omega

/-- What one `recv` brings: a head is taken off where there is a zero in front and in the
fifth place (which `stale` is, where neither the chunk nor its closing zero reaches it), and a
tail with it. A length below zero goes beyond every buffer. -/
def tcpTlReadMessage (stale : Char) (previousContent : Option Text) (chunk : Text) :
    Option (Option Text × List Text) :=
  let buf := chunk ++ ['\x00']
  let headed := buf.head? = some '\x00' ∧ buf[4]?.getD stale = '\x00'
  let pcTrueBuf := if headed then buf.drop 6 else buf
  let nTrueRecvLen : Int := if headed then (chunk.length : Int) - 7 else chunk.length
  if nTrueRecvLen < 0 then none
  else
    some (reassemble (previousContent.getD [] ++ osipStrncpy pcTrueBuf nTrueRecvLen.toNat))

/-- A connection: the content kept of the chunks before, and every message passed on. -/
structure Connection where
  previousContent : Option Text
  passed : List Text
  deriving DecidableEq

def Connection.fresh : Connection := ⟨none, []⟩

/-- One `recv` on a connection. -/
def Connection.recv (connection : Option Connection) (chunk : Text × Char) : Option Connection := do
  let connection ← connection
  let (previousContent, messages) ←
    tcpTlReadMessage chunk.2 connection.previousContent chunk.1
  return ⟨previousContent, connection.passed ++ messages⟩

end Gb28181.Exosip
