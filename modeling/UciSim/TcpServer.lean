import UciSim.Chardev

/-!
# The TCP transport, reading

`read_command` receives a header and then the payload the header announces,
each in as many pieces as the connection delivers. The server submits what it
reads and goes on whatever the engine answers. `arrivals` gives the bytes that
have arrived when a `recv` is made; a `recv` that is interrupted or would block
is made again and does not count.
-/

set_option autoImplicit false

namespace UciSim

open Framing

/-- A connection whose peer sends the incoming bytes and then closes it. -/
structure Socket where
  incoming : List UInt8
  calls : ℕ

inductive CommandRead where
  | ready (packet : Packet)
  | disconnected
  | failed

namespace Socket

variable (arrivals : ℕ → ℕ)

def recv (socket : Socket) (size : ℕ) : List UInt8 × Socket :=
  let n := min size (max 1 (arrivals socket.calls))
  (socket.incoming.take n,⟨socket.incoming.drop n,socket.calls+1⟩)

/-- `recv` until `size` bytes are there, or the peer has closed the connection. -/
def recvLoop : ℕ → ℕ → List UInt8 → Socket → Option (List UInt8) × Socket
  | 0, _, _, socket => (none,socket)
  | turns+1, size, got, socket =>
    if got.length < size then
      match socket.recv arrivals (size-got.length) with
      | ([],socket) => (none,socket)
      | (bytes,socket) => recvLoop turns size (got ++ bytes) socket
    else (some got,socket)

def readCommand (socket : Socket) : CommandRead × Socket :=
  match recvLoop arrivals (headerSize+1) headerSize [] socket with
  | (none,socket) => (.disconnected,socket)
  | (some hdr,socket) =>
    let mt := (byteAt hdr 0 >>> 5) &&& 0x03
    let payloadLen : UInt16 :=
      if mt = mtData then (byteAt hdr 2).toUInt16 ||| ((byteAt hdr 3).toUInt16 <<< 8)
      else (byteAt hdr 3).toUInt16
    if payloadLen.toNat > maxPayload then (.failed,socket)
    else
      match recvLoop arrivals (payloadLen.toNat+1) payloadLen.toNat [] socket with
      | (none,socket) => (.disconnected,socket)
      | (some payload,socket) =>
        (.ready {
          mt := mt
          pbf := (byteAt hdr 0 >>> 4) &&& 0x01
          gid := byteAt hdr 0 &&& 0x0F
          oid := byteAt hdr 1 &&& 0x3F
          payload := payload },socket)

end Socket

structure TcpServer (σ : Type) where
  engine : σ
  socket : Socket
  base : ℕ
  submitted : List (ℕ × Packet)

namespace TcpServer

variable {σ : Type} (submit : σ → Packet → Rc × σ) (arrivals : ℕ → ℕ)

def start (engine : σ) (incoming : List UInt8) : TcpServer σ := ⟨engine,⟨incoming,0⟩,0,[]⟩

/-- The reads of the event loop, until one is not a command. -/
def serve : ℕ → TcpServer σ → TcpServer σ
  | 0, server => server
  | turns+1, server =>
    match server.socket.readCommand arrivals with
    | (.ready packet,socket) =>
      serve turns ⟨(submit server.engine packet).2,socket,
        server.base+headerSize+packet.payload.length,
        server.submitted ++ [(server.base,packet)]⟩
    | (.disconnected,socket) => { server with socket := socket }
    | (.failed,socket) => { server with socket := socket }

end TcpServer

namespace Socket

variable (arrivals : ℕ → ℕ)

theorem recv_loop_enough (turns size : ℕ) (got : List UInt8) (socket : Socket)
    (hturns : size-got.length < turns) (h : size-got.length ≤ socket.incoming.length) :
    ∃ calls, recvLoop arrivals turns size got socket =
      (some (got ++ socket.incoming.take (size-got.length)),
        ⟨socket.incoming.drop (size-got.length),calls⟩) := by
  induction turns generalizing got socket with
  | zero => omega
  | succ turns ih =>
    rw [recvLoop]
    by_cases hgot : got.length < size
    · rw [if_pos hgot]
      have hn : ∃ n, min (size-got.length) (max 1 (arrivals socket.calls)) = n ∧ 0 < n ∧
          n ≤ size-got.length := ⟨_,rfl,by omega,by omega⟩
      rcases hn with ⟨n,hn,hpos,hle⟩
      have hlength : (socket.incoming.take n).length = n := by
        rw [List.length_take]
        omega
      rw [recv, hn]
      split
      · rename_i hnil
        rw [Prod.mk.injEq] at hnil
        rw [hnil.1] at hlength
        exact absurd hlength (by simp; omega)
      · rename_i bytes rest hne hpair
        rw [Prod.mk.injEq] at hpair
        rcases hpair with ⟨rfl,rfl⟩
        have hleft : size-(got ++ socket.incoming.take n).length = size-got.length-n := by
          rw [List.length_append, hlength]
          omega
        rcases ih (got ++ socket.incoming.take n) ⟨socket.incoming.drop n,socket.calls+1⟩
          (by omega) (by simp only [List.length_drop]; omega) with ⟨calls,hcalls⟩
        refine ⟨calls,hcalls.trans ?_⟩
        rw [hleft, List.append_assoc, List.drop_drop, ← List.take_add]
        rw [show n+(size-got.length-n) = size-got.length by omega]
    · refine ⟨socket.calls,?_⟩
      rw [if_neg hgot, show size-got.length = 0 by omega]
      simp

theorem recv_loop_short (turns size : ℕ) (got : List UInt8) (socket : Socket)
    (h : socket.incoming.length < size-got.length) :
    (recvLoop arrivals turns size got socket).1 = none := by
  induction turns generalizing got socket with
  | zero => rfl
  | succ turns ih =>
    rw [recvLoop, if_pos (by omega), recv]
    split
    · rfl
    · rename_i bytes rest hne hpair
      rw [Prod.mk.injEq] at hpair
      rcases hpair with ⟨rfl,rfl⟩
      refine ih _ _ ?_
      simp only [List.length_append, List.length_drop, List.length_take]
      omega

theorem read_command_header (b0 b1 b2 b3 : UInt8) (body : List UInt8) (calls : ℕ) :
    ∃ calls', readCommand arrivals ⟨b0::b1::b2::b3::body,calls⟩ =
      if headerLength [b0,b1,b2,b3] > maxPayload then (.failed,⟨body,calls'⟩)
      else match recvLoop arrivals (headerLength [b0,b1,b2,b3]+1) (headerLength [b0,b1,b2,b3]) []
          ⟨body,calls'⟩ with
        | (none,socket) => (.disconnected,socket)
        | (some payload,socket) =>
          (.ready { packetOf [b0,b1,b2,b3] with payload := payload },socket) := by
  rcases recv_loop_enough arrivals (headerSize+1) headerSize []
    ⟨b0::b1::b2::b3::body,calls⟩ (by decide) (by simp [headerSize]) with ⟨calls',hheader⟩
  refine ⟨calls',?_⟩
  have hlength : ∀ hdr : List UInt8, (Chardev.payloadLenAt hdr 0).toNat = headerLength hdr :=
    fun hdr => Chardev.payload_len_at hdr 0
  rw [readCommand, hheader]
  change (if (Chardev.payloadLenAt [b0,b1,b2,b3] 0).toNat > maxPayload
    then (CommandRead.failed,(⟨body,calls'⟩ : Socket))
    else match recvLoop arrivals ((Chardev.payloadLenAt [b0,b1,b2,b3] 0).toNat+1)
      (Chardev.payloadLenAt [b0,b1,b2,b3] 0).toNat [] ⟨body,calls'⟩ with
    | (none,socket) => (.disconnected,socket)
    | (some payload,socket) =>
      (.ready { packetOf [b0,b1,b2,b3] with payload := payload },socket)) = _
  rw [hlength]

theorem read_command_ready {socket : Socket} {n : ℕ}
    (h : wireFront maxPayload socket.incoming = .complete n) :
    ∃ calls, socket.readCommand arrivals =
      (.ready (packetOf (socket.incoming.take n)),⟨socket.incoming.drop n,calls⟩) := by
  rcases socket with ⟨incoming,calls⟩
  rcases wire_front_complete.mp h with ⟨hheader,hlimit,hbody,rfl⟩
  match incoming, hheader with
  | [], hheader | [_], hheader | [_,_], hheader | [_,_,_], hheader => simp [headerSize] at hheader
  | b0::b1::b2::b3::body, _ =>
    rcases read_command_header arrivals b0 b1 b2 b3 body calls with ⟨calls',hread⟩
    have hsame : headerLength (b0::b1::b2::b3::body) = headerLength [b0,b1,b2,b3] := rfl
    simp only [hsame, List.length_cons, headerSize] at hbody hlimit
    rcases recv_loop_enough arrivals (headerLength [b0,b1,b2,b3]+1)
      (headerLength [b0,b1,b2,b3]) [] ⟨body,calls'⟩ (by simp) (by simp; omega)
      with ⟨calls'',hpayload⟩
    refine ⟨calls'',?_⟩
    rw [hread, if_neg (by omega), hpayload]
    simp only [hsame]
    rw [packet_of_take, headerSize, Nat.add_comm 4]
    rfl

theorem read_command_other {socket : Socket}
    (h : ∀ n, wireFront maxPayload socket.incoming ≠ .complete n) (packet : Packet) :
    (socket.readCommand arrivals).1 ≠ .ready packet := by
  rcases socket with ⟨incoming,calls⟩
  by_cases hheader : incoming.length < headerSize
  · have hnone := recv_loop_short arrivals (headerSize+1) headerSize []
      ⟨incoming,calls⟩ (by simpa using hheader)
    rw [readCommand]
    split
    · simp
    · rename_i hsome
      rw [hsome] at hnone
      cases hnone
  · match incoming, hheader with
    | [], hheader | [_], hheader | [_,_], hheader | [_,_,_], hheader =>
      simp [headerSize] at hheader
    | b0::b1::b2::b3::body, _ =>
      rcases read_command_header arrivals b0 b1 b2 b3 body calls with ⟨calls',hread⟩
      have hsame : headerLength (b0::b1::b2::b3::body) = headerLength [b0,b1,b2,b3] := rfl
      rw [hread]
      by_cases hlimit : headerLength [b0,b1,b2,b3] > maxPayload
      · rw [if_pos hlimit]
        simp
      · rw [if_neg hlimit]
        have hshort : body.length < headerLength [b0,b1,b2,b3] := by
          by_contra hbody
          refine h _ (wire_front_complete.mpr
            ⟨by simp [headerSize],by simp only [hsame]; omega,?_,rfl⟩)
          simp only [hsame, List.length_cons, headerSize]
          omega
        have hnone := recv_loop_short arrivals (headerLength [b0,b1,b2,b3]+1)
          (headerLength [b0,b1,b2,b3]) [] ⟨body,calls'⟩ (by simpa using hshort)
        split
        · simp
        · rename_i hsome
          rw [hsome] at hnone
          cases hnone

end Socket

abbrev tcpCutter : Cutter UInt8 := wireCutter maxPayload

namespace TcpServer

variable {σ : Type} {submit : σ → Packet → Rc × σ} {arrivals : ℕ → ℕ}

theorem serve_submitted (turns : ℕ) (server : TcpServer σ) :
    (serve submit arrivals turns server).submitted = server.submitted ++
      packetsFrom server.base ((cut tcpCutter server.socket.incoming).1.take turns) := by
  induction turns generalizing server with
  | zero => simp [serve, packetsFrom, located]
  | succ turns ih =>
    rw [serve]
    by_cases hfront : Uncut tcpCutter server.socket.incoming
    · have hother := Socket.read_command_other arrivals hfront
      rw [cut_uncut hfront]
      split
      · rename_i packet socket hread
        exact absurd (congrArg Prod.fst hread) (hother packet)
      · simp [packetsFrom, located]
      · simp [packetsFrom, located]
    · simp only [Uncut, not_forall, not_not] at hfront
      rcases hfront with ⟨n,hn⟩
      rcases Socket.read_command_ready arrivals hn with ⟨calls,hread⟩
      have hframe : Frame tcpCutter (server.socket.incoming.take n) := front_frame hn
      have hlength : (server.socket.incoming.take n).length =
          headerSize+(packetOf (server.socket.incoming.take n)).payload.length := by
        rw [frame_payload hframe]
        exact (wire_frame.mp hframe).2.2
      rw [hread]
      simp only
      rw [ih, cut_complete hn, List.take_succ_cons, packets_from_cons, hlength]
      simp only [List.append_assoc, List.singleton_append, Nat.add_assoc]

end TcpServer

end UciSim
