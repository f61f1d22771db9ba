/-!
# Instruction families

The instruction set has thirty-five families.  A family says what an instruction does; the
operands come from the word itself.

## Main definitions

* `Opcode` — the families
* `Opcode.name` — their names, as the log writes them
-/

namespace Chip8

/-- The instruction families.  `X` and `Y` are the registers the word names, `NNN`, `NN` and `N`
its address, byte and nibble operand, and `I` is the index. -/
inductive Opcode where
  /-- `0NNN`: a routine of the host machine, of which there is none. -/
  | machineRoutine
  /-- `00E0`: darkens the screen. -/
  | clearScreen
  /-- `00EE`: goes back to the last return address. -/
  | subroutineReturn
  /-- `1NNN`: continues at `NNN`. -/
  | jump
  /-- `2NNN`: continues at `NNN` and keeps the return address. -/
  | subroutineCall
  /-- `3XNN`: skips a word if `VX` is `NN`. -/
  | skipEqX
  /-- `4XNN`: skips a word if `VX` is not `NN`. -/
  | skipNeqX
  /-- `5XY0`: skips a word if `VX` is `VY`. -/
  | skipXEqY
  /-- `6XNN`: `VX` becomes `NN`. -/
  | setImmediate
  /-- `7XNN`: adds `NN` to `VX`, without a flag. -/
  | add
  /-- `8XY0`: `VX` becomes `VY`. -/
  | setXToY
  /-- `8XY1`: bitwise or. -/
  | binaryOr
  /-- `8XY2`: bitwise and. -/
  | binaryAnd
  /-- `8XY3`: bitwise exclusive or. -/
  | logicalXor
  /-- `8XY4`: adds `VY` to `VX`; the flag is the carry. -/
  | binaryAdd
  /-- `8XY5`: `VX` minus `VY`; the flag says that nothing was borrowed. -/
  | subtractYFromX
  /-- `8XY6`: shifts to the right; the flag is the bit that falls out. -/
  | rightShift
  /-- `8XY7`: `VY` minus `VX`; the flag says that nothing was borrowed. -/
  | subtractXFromY
  /-- `8XYE`: shifts to the left; the flag is the bit that falls out. -/
  | leftShift
  /-- `9XY0`: skips a word if `VX` is not `VY`. -/
  | skipXNeqY
  /-- `ANNN`: `I` becomes `NNN`. -/
  | setIndex
  /-- `BNNN`: continues at `NNN` plus `V0`. -/
  | jumpWithOffset
  /-- `CXNN`: `VX` becomes a random byte under the mask `NN`. -/
  | random
  /-- `DXYN`: draws the `N` rows at `I` at the place `(VX, VY)`. -/
  | draw
  /-- `EX9E`: skips a word if the key in `VX` is held. -/
  | skipIfKeyPressed
  /-- `EXA1`: skips a word if the key in `VX` is not held. -/
  | skipIfKeyNotPressed
  /-- `FX07`: `VX` becomes the delay timer. -/
  | setVxFromTimer
  /-- `FX0A`: waits for a key and puts it in `VX`. -/
  | getKey
  /-- `FX15`: the delay timer becomes `VX`. -/
  | setDelayTimer
  /-- `FX18`: the sound timer becomes `VX`. -/
  | setSoundTimer
  /-- `FX1E`: adds `VX` to `I`. -/
  | addToIndex
  /-- `FX29`: `I` becomes the address of the sprite of the digit in `VX`. -/
  | fontChar
  /-- `FX33`: writes the decimal digits of `VX` to memory at `I`. -/
  | binaryCodedDecimal
  /-- `FX55`: writes `V0` to `VX` to memory at `I`. -/
  | store
  /-- `FX65`: reads `V0` to `VX` from memory at `I`. -/
  | load
deriving DecidableEq, Repr

/-- The name of a family. -/
def Opcode.name : Opcode → String
  | .machineRoutine => "MachineRoutine"
  | .clearScreen => "ClearScreen"
  | .subroutineReturn => "SubroutineReturn"
  | .jump => "Jump"
  | .subroutineCall => "SubroutineCall"
  | .skipEqX => "SkipEqX"
  | .skipNeqX => "SkipNeqX"
  | .skipXEqY => "SkipXEqY"
  | .setImmediate => "SetImmediate"
  | .add => "Add"
  | .setXToY => "SetXToY"
  | .binaryOr => "BinaryOr"
  | .binaryAnd => "BinaryAnd"
  | .logicalXor => "LogicalXor"
  | .binaryAdd => "BinaryAdd"
  | .subtractYFromX => "SubtractYFromX"
  | .rightShift => "RightShift"
  | .subtractXFromY => "SubtractXFromY"
  | .leftShift => "LeftShift"
  | .skipXNeqY => "SkipXNeqY"
  | .setIndex => "SetIndex"
  | .jumpWithOffset => "JumpWithOffset"
  | .random => "Random"
  | .draw => "Draw"
  | .skipIfKeyPressed => "SkipIfKeyPressed"
  | .skipIfKeyNotPressed => "SkipIfKeyNotPressed"
  | .setVxFromTimer => "SetVxFromTimer"
  | .getKey => "GetKey"
  | .setDelayTimer => "SetDelayTimer"
  | .setSoundTimer => "SetSoundTimer"
  | .addToIndex => "AddToIndex"
  | .fontChar => "FontChar"
  | .binaryCodedDecimal => "BinaryCodedDecimal"
  | .store => "Store"
  | .load => "Load"

end Chip8
