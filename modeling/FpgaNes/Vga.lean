import FpgaNes.Nes

/-!
# The picture output

`VGA_controller342.sv`, and the side of the line buffers in `PPU.sv` that it reads. The clock of
this side is `VIDEO_CLK`, which is `MCLK` divided by two, in phase with `PPU_CLK`: every second
edge of it is an edge of `PPU_CLK`.
-/

namespace FpgaNes

/-- The counters of `vga_controller342`. -/
structure VgaCounters where
  /-- The column that comes next. -/
  nexth : BitVec 12
  /-- The row that comes next. -/
  nextv : BitVec 12
  /-- The column. -/
  hcount : BitVec 12
  /-- The row. -/
  vcount : BitVec 12
  deriving DecidableEq

/-- Registers of `vga_controller342`. -/
structure Vga extends VgaCounters where
  /-- `VGA_HS`. -/
  hs : Bool
  /-- `VGA_VS`. -/
  vs : Bool
  /-- `blank`, high on the screen. -/
  blank : Bool
  deriving DecidableEq

namespace Vga

/-- Horizontal sync starts. -/
def hSb : ℕ := 280

/-- Horizontal sync ends. -/
def hSe : ℕ := 321

/-- Vertical sync starts. -/
def vSb : ℕ := 490

/-- Vertical sync ends. -/
def vSe : ℕ := 491

/-- The last pixel of a line. -/
def hTot : ℕ := 340

/-- The last line of a frame. -/
def vTot : ℕ := 523

/-- The first pixel past the display. -/
def hActive : ℕ := 255

/-- The first line past the display. -/
def vActive : ℕ := 480

/-- The counters on an edge with `Reset` high. -/
def countersReset : VgaCounters := ⟨0, BitVec.ofNat 12 (vTot - 1), 0, BitVec.ofNat 12 (vTot - 1)⟩

/-- The counters on an edge with `Reset` low. -/
def countersNext (c : VgaCounters) : VgaCounters where
  nexth := if c.nexth.toNat = hTot then 0 else c.nexth + 1
  nextv :=
    if c.nexth.toNat = hTot then if c.nextv.toNat = vTot then 0 else c.nextv + 1 else c.nextv
  hcount := c.nexth
  vcount := c.nextv

/-- `vga_controller342`, on `posedge Clk`. Both sync pulses have polarity one. -/
def next (r : Vga) (reset : Bool) : Vga :=
  if reset then { countersReset with hs := false, vs := false, blank := r.blank }
  else
    { countersNext r.toVgaCounters with
      hs := true ^^ (r.hcount.toNat < hSb || hSe ≤ r.hcount.toNat)
      vs := true ^^ (r.vcount.toNat < vSb || vSe ≤ r.vcount.toNat)
      blank := r.hcount.toNat < hActive && r.vcount.toNat < vActive }

/-- `DrawX`. -/
def drawX (r : Vga) : BitVec 11 := r.hcount.setWidth 11

end Vga

/-- The console and the controller of its display. -/
structure Screen where
  /-- The console. -/
  nes : Nes
  /-- The VGA controller. -/
  vga : Vga

namespace Screen

/-- `vga_linebuffer`: the controller reads the buffer the PPU does not write. -/
def vgaLinebuffer (s : Screen) : Bool := !s.nes.ppu.lines.ppuLinebuffer

/-- `pixel_clr_idx`; past the 256 entries it is unknown, and zero here. -/
def pixelClrIdx (s : Screen) : BitVec 6 :=
  if inside : s.vga.drawX.toNat < 256 then
    s.nes.ppu.lines.linebuffer s.vgaLinebuffer ⟨s.vga.drawX.toNat, inside⟩
  else 0

/-- One period of `VIDEO_CLK`, two edges of `MCLK`, ended by its edge. `PPU_CLK` rises with it
when `ppuRises` is set, and `CPU_CLK` too when `cpuEdge` is. -/
def videoClock (pins : Pins) (bus : CpuBus) (ppuRises cpuEdge : Bool) (s : Screen) : Screen where
  nes :=
    let half := s.nes.mclkEdge pins bus
    if ppuRises then half.ppuEdge pins bus cpuEdge else half.mclkEdge pins bus
  vga := s.vga.next pins.reset

/-- Two periods of `VIDEO_CLK` make one of `PPU_CLK`. -/
theorem videoClock_twice (pins : Pins) (bus : CpuBus) (cpuEdge : Bool) (s : Screen) :
    ((s.videoClock pins bus false false).videoClock pins bus true cpuEdge).nes =
      s.nes.ppuClock pins bus cpuEdge := rfl

end Screen

end FpgaNes
