import Rxtx.Library.FlagWord

open FlagWord

namespace Rxtx.Win32

abbrev TcFlag := BitVec 32
abbrev Cc := BitVec 8
abbrev DWord := BitVec 32

abbrev nccs : Nat := 32

structure Termios where
  cIflag : TcFlag
  cOflag : TcFlag
  cCflag : TcFlag
  cLflag : TcFlag
  cCc : Fin nccs → Cc
  cLine : Cc
  cIspeed : BitVec 32
  cOspeed : BitVec 32

def Termios.zero : Termios := ⟨0, 0, 0, 0, fun _ => 0, 0, 0, 0⟩

structure Dcb where
  baudRate : DWord
  fBinary : Bool
  fParity : Bool
  fOutxCtsFlow : Bool
  fOutxDsrFlow : Bool
  fDtrControl : BitVec 2
  fDsrSensitivity : Bool
  fTXContinueOnXoff : Bool
  fOutX : Bool
  fInX : Bool
  fRtsControl : BitVec 2
  xonLim : BitVec 16
  xoffLim : BitVec 16
  byteSize : BitVec 8
  parity : BitVec 8
  stopBits : BitVec 8
  xonChar : BitVec 8
  xoffChar : BitVec 8
  eofChar : BitVec 8
  evtChar : BitVec 8
  deriving DecidableEq, Inhabited, Repr

structure CommTimeouts where
  readIntervalTimeout : DWord
  readTotalTimeoutMultiplier : DWord
  readTotalTimeoutConstant : DWord
  writeTotalTimeoutMultiplier : DWord
  writeTotalTimeoutConstant : DWord
  deriving DecidableEq, Inhabited, Repr

def vIntr : Fin nccs := 0
def vQuit : Fin nccs := 1
def vErase : Fin nccs := 2
def vKill : Fin nccs := 3
def vEof : Fin nccs := 4
def vTime : Fin nccs := 5
def vMin : Fin nccs := 6
def vStart : Fin nccs := 8
def vStop : Fin nccs := 9
def vSusp : Fin nccs := 10
def vEol : Fin nccs := 11
def vReprint : Fin nccs := 12
def vWerase : Fin nccs := 14
def vLnext : Fin nccs := 15
def vEol2 : Fin nccs := 16

def ignbrk : TcFlag := 0o1
def brkint : TcFlag := 0o2
def ignpar : TcFlag := 0o4
def parmrk : TcFlag := 0o10
def inpck : TcFlag := 0o20
def istrip : TcFlag := 0o40
def inlcr : TcFlag := 0o100
def igncr : TcFlag := 0o200
def icrnl : TcFlag := 0o400
def ixon : TcFlag := 0o2000
def ixany : TcFlag := 0o4000
def ixoff : TcFlag := 0o10000

def opost : TcFlag := 0o1

def cbaud : TcFlag := 0o10017
def csize : TcFlag := 0o60
def cs5 : TcFlag := 0o0
def cs6 : TcFlag := 0o20
def cs7 : TcFlag := 0o40
def cs8 : TcFlag := 0o60
def cstopb : TcFlag := 0o100
def parenb : TcFlag := 0o400
def parodd : TcFlag := 0o1000
def cignore : TcFlag := 0o400000
def cmspar : TcFlag := 0o10000000000
def hardwareFlowControl : TcFlag := 0o20000000000

def isig : TcFlag := 0o1
def icanon : TcFlag := 0o2
def echo : TcFlag := 0o10
def echonl : TcFlag := 0o100
def iexten : TcFlag := 0o100000

def b0 : TcFlag := 0o0
def b50 : TcFlag := 0o1
def b75 : TcFlag := 0o2
def b110 : TcFlag := 0o3
def b134 : TcFlag := 0o4
def b150 : TcFlag := 0o5
def b200 : TcFlag := 0o6
def b300 : TcFlag := 0o7
def b600 : TcFlag := 0o10
def b1200 : TcFlag := 0o11
def b1800 : TcFlag := 0o12
def b2400 : TcFlag := 0o13
def b4800 : TcFlag := 0o14
def b9600 : TcFlag := 0o15
def b19200 : TcFlag := 0o16
def b38400 : TcFlag := 0o17
def b57600 : TcFlag := 0o10001
def b115200 : TcFlag := 0o10002
def b230400 : TcFlag := 0o10003
def b460800 : TcFlag := 0o10004
def b500000 : TcFlag := 0o10005
def b576000 : TcFlag := 0o10006
def b921600 : TcFlag := 0o10007
def b1000000 : TcFlag := 0o10010
def b1152000 : TcFlag := 0o10011
def b1500000 : TcFlag := 0o10012
def b2000000 : TcFlag := 0o10013
def b2500000 : TcFlag := 0o10014
def b3000000 : TcFlag := 0o10015
def b3500000 : TcFlag := 0o10016
def b4000000 : TcFlag := 0o10017
-- these four are written in decimal in the source
def b14400 : TcFlag := 1010001
def b28800 : TcFlag := 1010002
def b128000 : TcFlag := 1010003
def b256000 : TcFlag := 1010004

def baudConstants : List TcFlag :=
  [b0, b50, b75, b110, b134, b150, b200, b300, b600, b1200, b1800, b2400, b4800, b9600, b19200,
    b38400, b57600, b115200, b230400, b460800, b500000, b576000, b921600, b1000000, b1152000,
    b1500000, b2000000, b2500000, b3000000, b3500000, b4000000, b14400, b28800, b128000, b256000]

def noParity : BitVec 8 := 0
def oddParity : BitVec 8 := 1
def evenParity : BitVec 8 := 2
def markParity : BitVec 8 := 3
def spaceParity : BitVec 8 := 4
def oneStopBit : BitVec 8 := 0
def twoStopBits : BitVec 8 := 2
def rtsControlDisable : BitVec 2 := 0
def rtsControlHandshake : BitVec 2 := 2
def dtrControlEnable : BitVec 2 := 1
def maxDWord : DWord := 0xFFFFFFFF

def switch {w : Nat} (cases : List (BitVec w × BitVec w)) (otherwise value : BitVec w) : BitVec w :=
  (cases.lookup value).getD otherwise

def cbrToB : BitVec 32 → BitVec 32 :=
  switch [(0, b0), (50, b50), (75, b75), (110, b110), (134, b134), (150, b150), (200, b200),
    (300, b300), (600, b600), (1200, b1200), (1800, b1800), (2400, b2400), (4800, b4800),
    (9600, b9600), (14400, b14400), (19200, b19200), (28800, b28800), (38400, b38400),
    (57600, b57600), (115200, b115200), (128000, b128000), (230400, b230400), (256000, b256000),
    (460800, b460800), (500000, b500000), (576000, b576000), (921600, b921600),
    (1000000, b1000000), (1152000, b1152000), (1500000, b1500000), (2000000, b2000000),
    (2500000, b2500000), (3000000, b3000000), (3500000, b3500000), (4000000, b4000000)] (-1)

-- B28800 has no case here
def bToCbr : BitVec 32 → BitVec 32 :=
  switch [(0, 0), (b50, 50), (b75, 75), (b110, 110), (b134, 134), (b150, 150), (b200, 200),
    (b300, 300), (b600, 600), (b1200, 1200), (b1800, 1800), (b2400, 2400), (b4800, 4800),
    (b9600, 9600), (b14400, 14400), (b19200, 19200), (b38400, 38400), (b57600, 57600),
    (b115200, 115200), (b128000, 128000), (b256000, 256000), (b230400, 230400),
    (b460800, 460800), (b500000, 500000), (b576000, 576000), (b921600, 921600),
    (b1000000, 1000000), (b1152000, 1152000), (b1500000, 1500000), (b2000000, 2000000),
    (b2500000, 2500000), (b3000000, 3000000), (b3500000, 3500000), (b4000000, 4000000)] (-1)

def bytesizeToTermios (byteSize : BitVec 8) : TcFlag :=
  if byteSize = 5 then cs5 else if byteSize = 6 then cs6 else if byteSize = 7 then cs7 else cs8

def termiosToBytesize (cflag : TcFlag) : BitVec 8 :=
  let size := cflag &&& csize
  if size = cs5 then 5 else if size = cs6 then 6 else if size = cs7 then 7 else 8

def termiosToParity (cflag : TcFlag) : BitVec 8 :=
  if cflag &&& parenb ≠ 0 then
    if cflag &&& parodd ≠ 0 ∧ cflag &&& cmspar ≠ 0 then markParity
    else if cflag &&& parodd ≠ 0 then oddParity
    else if cflag &&& cmspar ≠ 0 then spaceParity
    else evenParity
  else noParity

/-- The speeds of the caller's `struct termios` are set as well. -/
def termiosToDcb (s : Termios) (dcb : Dcb) : Termios × Dcb :=
  let speed := s.cCflag &&& cbaud
  let handshake : Bool := s.cCflag &&& hardwareFlowControl ≠ 0
  ({ s with cIspeed := speed, cOspeed := speed },
    { dcb with
      baudRate := bToCbr speed
      byteSize := termiosToBytesize s.cCflag
      parity := termiosToParity s.cCflag
      stopBits := if s.cCflag &&& cstopb ≠ 0 then twoStopBits else oneStopBit
      fRtsControl := if handshake then rtsControlHandshake else rtsControlDisable
      fOutxCtsFlow := handshake })

def dcbToTermios (dcb : Dcb) (s : Termios) : Termios :=
  let speed := cbrToB dcb.baudRate
  { s with cIspeed := speed, cOspeed := speed, cCflag := s.cCflag ||| (speed &&& cbaud) }

/-- What `tcsetattr` makes of the DCB it got; the caller's speeds may be set on the way. -/
def tcsetattrDcb (s : Termios) (dcb : Dcb) : Termios × Dcb :=
  let (s, dcb) :=
    if s.cCflag &&& cignore = 0 then termiosToDcb s { dcb with fParity := true } else (s, dcb)
  (s, { dcb with
    fOutX := s.cIflag &&& ixon ≠ 0
    fInX := s.cIflag &&& ixoff ≠ 0
    fTXContinueOnXoff := s.cIflag &&& ixany ≠ 0
    fDtrControl := dtrControlEnable
    fOutxDsrFlow := false
    fDsrSensitivity := false
    xonChar := s.cCc vStart
    xoffChar := s.cCc vStop
    xonLim := 0
    xoffLim := 0
    eofChar := s.cCc vEof
    -- the value set from ISTRIP before is overwritten
    fBinary := s.cCc vEof = 0
    evtChar := 10 })

def tcsetattrTimeouts (s : Termios) : CommTimeouts :=
  let vtime : DWord := (s.cCc vTime).setWidth 32 * 100
  let timeouts : CommTimeouts := {
    readTotalTimeoutConstant := vtime
    readIntervalTimeout := 0
    readTotalTimeoutMultiplier := 0
    writeTotalTimeoutConstant := vtime
    writeTotalTimeoutMultiplier := 0 }
  if s.cCc vMin = 0 ∧ vtime = 0 then
    { timeouts with
      readIntervalTimeout := maxDWord
      readTotalTimeoutConstant := 0
      readTotalTimeoutMultiplier := 0 }
  else timeouts

def parityToTermios (parity : BitVec 8) (cflag : TcFlag) : TcFlag :=
  let cflag := clear cflag (parenb ||| parodd ||| cmspar) ||| parenb
  if parity = markParity then cflag ||| (parodd ||| cmspar)
  else if parity = spaceParity then cflag ||| cmspar
  else if parity = oddParity then cflag ||| parodd
  else if parity = evenParity then clear cflag parodd
  else if parity = noParity then clear cflag (parodd ||| cmspar ||| parenb)
  else cflag

def stopBitsToTermios (stopBits : BitVec 8) (cflag : TcFlag) : TcFlag :=
  if stopBits = twoStopBits then cflag ||| cstopb
  else if stopBits = oneStopBit then clear cflag cstopb
  else cflag

def tcgetattrFlags (dcb : Dcb) (ttyset : Termios) : Termios :=
  let iflag := if dcb.fParity then clear (ttyset.cIflag ||| inpck) ignpar
    else clear ttyset.cIflag inpck ||| ignpar
  let iflag := assign iflag ixon dcb.fOutX
  let iflag := assign iflag ixoff dcb.fInX
  let iflag := assign iflag ixany dcb.fTXContinueOnXoff
  let cflag := stopBitsToTermios dcb.stopBits ttyset.cCflag
  let cflag := parityToTermios dcb.parity cflag
  let cflag := cflag ||| bytesizeToTermios dcb.byteSize
  let cflag := assign cflag hardwareFlowControl
    (dcb.fOutxCtsFlow || dcb.fRtsControl = rtsControlHandshake)
  { ttyset with cIflag := iflag, cCflag := cflag }

def tcgetattrChars (dcb : Dcb) (timeouts : CommTimeouts) (s : Termios) : Termios :=
  let cc := Function.update s.cCc vTime ((timeouts.readTotalTimeoutConstant / 100).setWidth 8)
  let cc := Function.update cc vStart dcb.xonChar
  let cc := Function.update cc vStop dcb.xoffChar
  let cc := Function.update cc vEof dcb.eofChar
  dcbToTermios dcb { s with cCc := cc }

/-- The result is false for what is no speed. -/
def cfsetospeed (s : Termios) (speed : BitVec 32) : Bool × Termios :=
  if clear speed cbaud ≠ 0 then (false, s)
  else (true, { s with
    cIspeed := speed
    cOspeed := speed
    cCflag := clear s.cCflag cbaud ||| (if speed ≠ 0 then speed else b9600) })

def cfmakeraw (s : Termios) : Termios :=
  { s with
    cIflag := clear s.cIflag
      (ignbrk ||| brkint ||| parmrk ||| istrip ||| inlcr ||| igncr ||| icrnl ||| ixon)
    cOflag := clear s.cOflag opost
    cLflag := clear s.cLflag (echo ||| echonl ||| icanon ||| isig ||| iexten)
    cCflag := clear s.cCflag (csize ||| parenb) ||| cs8 }

def defaultCc : List (Fin nccs × Cc) :=
  [(vIntr, 0x03), (vQuit, 0x1c), (vErase, 0x7f), (vKill, 0x15), (vEof, 0x04), (vTime, 0),
    (vMin, 1), (vSusp, 0x1a), (vEol, 0x0d), (vReprint, 0x12), (vWerase, 0x17), (vLnext, 0x16),
    (vEol2, 0x0a)]

def initTermios : Termios :=
  let s := cfmakeraw (cfsetospeed Termios.zero b9600).2
  { s with cCc := fun i => (defaultCc.lookup i).getD 0 }

end Rxtx.Win32
