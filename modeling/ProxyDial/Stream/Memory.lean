import ProxyDial.Fault
import ProxyDial.Text.Bytes

set_option autoImplicit false

/-! Streams that are held in memory: bytes to read with an end or a fault behind them, and a record
of what has been written. -/

namespace ProxyDial
open Text

structure MemoryStream where
  unread : Bytes
  /-- What a read meets once all bytes are read; without it, the end of the stream. -/
  ending : Option Fault
  written : Bytes
  flushes : Nat
  deriving DecidableEq, Repr

namespace MemoryStream

def ofBytes (content : Bytes) (ending : Option Fault) : MemoryStream := ⟨content, ending, [], 0⟩

/-- Up to `size` bytes. -/
def read (size : Nat) (stream : MemoryStream) : Except Fault Bytes × MemoryStream :=
  match stream.unread, stream.ending with
  | [], some fault => (.error fault, stream)
  | unread, _ => (.ok (unread.take size), { stream with unread := unread.drop size })

def write (bytes : Bytes) (stream : MemoryStream) : MemoryStream :=
  { stream with written := stream.written ++ bytes }

def flush (stream : MemoryStream) : MemoryStream :=
  { stream with flushes := stream.flushes + 1 }

end MemoryStream

end ProxyDial
