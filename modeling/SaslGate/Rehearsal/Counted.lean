/-
Engines and sockets that keep count of how often they are closed, and do
everything else as the ones inside them do.
-/
import SaslGate.Rehearsal.Remote

namespace SaslGate.Rehearsal

/-- Something with a count of its closings. -/
structure Counted (α : Type) where
  inner : α
  closings : Nat

namespace Counted

variable {ε σ : Type}

/-- A step of what is inside, which is not counted. -/
def lift (f : α → β × α) (c : Counted α) : β × Counted α :=
  ((f c.inner).1, { c with inner := (f c.inner).2 })

instance [Engine ε] : Engine (Counted ε) where
  sendHeader := lift Engine.sendHeader
  sendInit mechanism hostname initialResponse :=
    lift (Engine.sendInit mechanism hostname initialResponse)
  sendResponse response := lift (Engine.sendResponse response)
  outbound c := Engine.outbound c.inner
  consume n c := { c with inner := Engine.consume n c.inner }
  feed bytes := lift (Engine.feed bytes)
  announced c := Engine.announced c.inner
  progress c := Engine.progress c.inner
  hasPending c := Engine.hasPending c.inner
  takePending := lift Engine.takePending
  outcomeCode c := Engine.outcomeCode c.inner
  close c := ⟨Engine.close c.inner, c.closings + 1⟩
  outbound_consume n c := Engine.outbound_consume n c.inner

instance [Wire σ] : Wire (Counted σ) where
  read n := lift (Wire.read n)
  write bytes := lift (Wire.write bytes)
  flush := lift Wire.flush
  readTimeout := lift Wire.readTimeout
  setReadTimeout timeout := lift (Wire.setReadTimeout timeout)
  shutdown c := ((Wire.shutdown c.inner).1,
    ⟨(Wire.shutdown c.inner).2, c.closings + 1⟩)
  now := lift Wire.now
  talk c := Wire.talk c.inner
  talk_read n c := Wire.talk_read n c.inner
  talk_read_le n c := Wire.talk_read_le n c.inner
  talk_write bytes c := Wire.talk_write bytes c.inner
  talk_flush c := Wire.talk_flush c.inner
  talk_readTimeout c := Wire.talk_readTimeout c.inner
  talk_setReadTimeout timeout c := Wire.talk_setReadTimeout timeout c.inner
  talk_now c := Wire.talk_now c.inner

end Counted

/-- A remote server whose sockets keep count. -/
structure CountedRemote where
  remote : Remote

instance : Connector CountedRemote (Counted Socket) where
  connect host portNumber timeout c :=
    let (answer, remote) := Connector.connect host portNumber timeout c.remote
    (answer.map fun (id, socket) => (id, ⟨socket, 0⟩), ⟨remote⟩)

end SaslGate.Rehearsal
