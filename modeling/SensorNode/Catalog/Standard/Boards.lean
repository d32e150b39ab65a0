import SensorNode.Board.Basic

/-!
# Standard boards

Two development boards. On both, the pins that a boot mode or the serial monitor needs are marked as
restricted, with the reason.
-/

namespace SensorNode.Catalog.Standard

/-- The pins of the board in declaration order. -/
def esp32Pins : List Pin :=
  [{ gpio := 34, label := "D34", capabilities := [.digitalIn, .analogIn],
      restricted := true, restrictionReason := some "Input Only" },
    { gpio := 35, label := "D35", capabilities := [.digitalIn, .analogIn],
      restricted := true, restrictionReason := some "Input Only" },
    { gpio := 32, label := "D32", capabilities := [.digitalIn, .digitalOut, .analogIn, .pwm] },
    { gpio := 33, label := "D33", capabilities := [.digitalIn, .digitalOut, .analogIn, .pwm] },
    { gpio := 25, label := "D25",
      capabilities := [.digitalIn, .digitalOut, .analogIn, .analogOut, .pwm] },
    { gpio := 26, label := "D26",
      capabilities := [.digitalIn, .digitalOut, .analogIn, .analogOut, .pwm] },
    { gpio := 27, label := "D27", capabilities := [.digitalIn, .digitalOut, .analogIn, .pwm] },
    { gpio := 14, label := "D14",
      capabilities := [.digitalIn, .digitalOut, .analogIn, .pwm, .spi] },
    { gpio := 12, label := "D12", capabilities := [.digitalIn, .digitalOut, .analogIn, .pwm],
      restricted := true, restrictionReason := some "Boot Fail if Pulled High",
      bootState := some .low },
    { gpio := 13, label := "D13", capabilities := [.digitalIn, .digitalOut, .analogIn, .pwm] },
    { gpio := 15, label := "D15", capabilities := [.digitalIn, .digitalOut, .analogIn, .pwm],
      restricted := true, restrictionReason := some "Boot Log / Must be Low",
      bootState := some .high },
    { gpio := 2, label := "D2", capabilities := [.digitalIn, .digitalOut, .analogIn, .pwm],
      restricted := true, restrictionReason := some "Onboard LED / Boot" },
    { gpio := 0, label := "D0", capabilities := [.digitalIn, .digitalOut, .analogIn, .pwm],
      restricted := true, restrictionReason := some "Boot Button", bootState := some .high },
    { gpio := 4, label := "D4", capabilities := [.digitalIn, .digitalOut, .analogIn, .pwm] },
    { gpio := 16, label := "RX2", capabilities := [.digitalIn, .digitalOut, .uart] },
    { gpio := 17, label := "TX2", capabilities := [.digitalIn, .digitalOut, .uart] },
    { gpio := 5, label := "D5", capabilities := [.digitalIn, .digitalOut, .pwm, .spi] },
    { gpio := 18, label := "D18", capabilities := [.digitalIn, .digitalOut, .pwm, .spi] },
    { gpio := 19, label := "D19", capabilities := [.digitalIn, .digitalOut, .pwm, .spi] },
    { gpio := 21, label := "D21", capabilities := [.digitalIn, .digitalOut, .pwm, .i2c] },
    { gpio := 3, label := "RX0", capabilities := [.digitalIn, .digitalOut, .uart],
      restricted := true, restrictionReason := some "USB Serial RX" },
    { gpio := 1, label := "TX0", capabilities := [.digitalIn, .digitalOut, .uart],
      restricted := true, restrictionReason := some "USB Serial TX" },
    { gpio := 22, label := "D22", capabilities := [.digitalIn, .digitalOut, .pwm, .i2c] },
    { gpio := 23, label := "D23", capabilities := [.digitalIn, .digitalOut, .pwm, .spi] }]

def esp32 : Board where
  id := "esp32-devkit-v1"
  name := "ESP32 DevKit V1 (30 Pin)"
  mcu := .esp32
  pins := esp32Pins
  i2c := ⟨21, 22⟩
  spi := ⟨23, 19, 18, 5⟩
  maxCurrent := some 800

/-- The pins of the board in declaration order. -/
def esp8266Pins : List Pin :=
  [{ gpio := 16, label := "D0", capabilities := [.digitalIn, .digitalOut, .pwm],
      restricted := true, restrictionReason := some "High at Boot / Deep Sleep Wake",
      bootState := some .high },
    { gpio := 5, label := "D1", capabilities := [.digitalIn, .digitalOut, .pwm, .i2c] },
    { gpio := 4, label := "D2", capabilities := [.digitalIn, .digitalOut, .pwm, .i2c] },
    { gpio := 0, label := "D3", capabilities := [.digitalIn, .digitalOut, .pwm],
      restricted := true,
      restrictionReason := some "Flash Button / Boot Mode (Must be High at Boot)",
      bootState := some .high },
    { gpio := 2, label := "D4", capabilities := [.digitalIn, .digitalOut, .pwm, .uart],
      restricted := true, restrictionReason := some "Built-in LED / Boot High",
      bootState := some .high },
    { gpio := 14, label := "D5", capabilities := [.digitalIn, .digitalOut, .pwm, .spi] },
    { gpio := 12, label := "D6", capabilities := [.digitalIn, .digitalOut, .pwm, .spi] },
    { gpio := 13, label := "D7", capabilities := [.digitalIn, .digitalOut, .pwm, .spi, .uart] },
    { gpio := 15, label := "D8", capabilities := [.digitalIn, .digitalOut, .pwm, .spi, .uart],
      restricted := true, restrictionReason := some "Boot Low (Must be Low at Boot)",
      bootState := some .low },
    { gpio := 3, label := "RX", capabilities := [.digitalIn, .digitalOut, .uart],
      restricted := true, restrictionReason := some "RX Pin / High at Boot",
      bootState := some .high },
    { gpio := 1, label := "TX", capabilities := [.digitalIn, .digitalOut, .uart],
      restricted := true, restrictionReason := some "TX Pin / High at Boot / Debug Output",
      bootState := some .high },
    { gpio := 17, label := "A0", capabilities := [.analogIn], adcChannel := some 0 }]

def esp8266 : Board where
  id := "esp8266-nodemcu"
  name := "NodeMCU (ESP8266)"
  mcu := .esp8266
  pins := esp8266Pins
  i2c := ⟨4, 5⟩
  spi := ⟨13, 12, 14, 15⟩
  maxCurrent := some 800

def boards : List Board := [esp32, esp8266]

end SensorNode.Catalog.Standard
