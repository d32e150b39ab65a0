import SensorNode.Attachment.Basic
import SensorNode.Peripheral.Basic
import SensorNode.Template
import SensorNode.Text.Lines

/-!
# Standard peripherals

The sensors, actuators, displays and readers that every catalog starts from.
-/

namespace SensorNode.Catalog.Standard

/-- The short id of an attachment, which keeps its symbols apart from those of another. -/
def idSlot : String := Template.slotText "ID"

def fieldSlot : String := Template.slotText "FIELD"

def pinSlot (index : Nat) : String := Template.slotText (pinName index)

def dht22 : Peripheral where
  id := "dht22"
  name := "DHT22 Temp/Hum"
  description := "Measure temperature and relative humidity."
  category := .environmental
  requires := [.digitalIn]
  current := 2
  includes := ["#include \"DHT.h\""]
  constructor := "DHT dht_" ++ idSlot ++ "(" ++ pinSlot 0 ++ ", DHT22);"
  setup := "dht_" ++ idSlot ++ ".begin();"
  topic := .telemetry
  telemetryField := some "climate"
  telemetryRead := some <| Text.join "\n"
    ["    float t = dht_" ++ idSlot ++ ".readTemperature();",
     "    float h = dht_" ++ idSlot ++ ".readHumidity();",
     "    if(!isnan(t)) \x7b sendTelemetry(\"" ++ fieldSlot ++ "\", t); \x7d"]
  libraries := ["dht", "adafruit_sensor"]

def ds18b20 : Peripheral where
  id := "ds18b20"
  name := "DS18B20 Temp (Waterproof)"
  description := "Waterproof 1-Wire temperature sensor."
  category := .environmental
  requires := [.digitalIn]
  current := 1
  includes := ["#include <OneWire.h>", "#include <DallasTemperature.h>"]
  constructor := Text.join "\n"
    ["OneWire oneWire_" ++ idSlot ++ "(" ++ pinSlot 0 ++ ");",
     "DallasTemperature sensors_" ++ idSlot ++ "(&oneWire_" ++ idSlot ++ ");"]
  setup := "sensors_" ++ idSlot ++ ".begin();"
  topic := .telemetry
  telemetryField := some "temp_water"
  telemetryRead := some <| Text.join "\n"
    ["    sensors_" ++ idSlot ++ ".requestTemperatures();",
     "    float t = sensors_" ++ idSlot ++ ".getTempCByIndex(0);",
     "    if(t > -127) \x7b sendTelemetry(\"" ++ fieldSlot ++ "\", t); \x7d"]
  libraries := ["onewire", "dallastemp"]

def bme280 : Peripheral where
  id := "bme280"
  name := "BME280 Env Sensor"
  description := "Temp, Humidity, and Pressure I2C sensor."
  category := .environmental
  requires := [.i2c]
  bus := some .i2c
  current := 4
  includes := ["#include <Adafruit_BME280.h>"]
  constructor := "Adafruit_BME280 bme_" ++ idSlot ++ ";"
  setup := "if (!bme_" ++ idSlot ++ ".begin(0x76)) \x7b Serial.println(\"BME280 fail\"); \x7d"
  topic := .telemetry
  telemetryField := some "env"
  telemetryRead := some <| Text.join "\n"
    ["    sendTelemetry(\"temp\", bme_" ++ idSlot ++ ".readTemperature());",
     "    sendTelemetry(\"humid\", bme_" ++ idSlot ++ ".readHumidity());",
     "    sendTelemetry(\"press\", bme_" ++ idSlot ++ ".readPressure()/100.0F);"]
  libraries := ["bme280", "adafruit_sensor"]

def ldr : Peripheral where
  id := "ldr"
  name := "LDR Light Sensor"
  description := "Photoresistor to measure light intensity."
  category := .environmental
  requires := [.analogIn]
  current := 1
  constructor := "// LDR on PIN_" ++ pinSlot 0
  setup := "pinMode(" ++ pinSlot 0 ++ ", INPUT);"
  topic := .telemetry
  telemetryField := some "light_level"
  telemetryRead := some <|
    "    sendTelemetry(\"" ++ fieldSlot ++ "\", analogRead(" ++ pinSlot 0 ++ "));"

def soilMoisture : Peripheral where
  id := "soil-moisture"
  name := "Soil Moisture Sensor"
  description := "Measure soil humidity."
  category := .environmental
  requires := [.analogIn]
  current := 5
  constructor := "// Soil Sensor on PIN_" ++ pinSlot 0
  setup := "pinMode(" ++ pinSlot 0 ++ ", INPUT);"
  topic := .telemetry
  telemetryField := some "soil_moisture"
  telemetryRead := some <|
    "    sendTelemetry(\"" ++ fieldSlot ++ "\", analogRead(" ++ pinSlot 0 ++ "));"

def pirHcSr501 : Peripheral where
  id := "pir-hc-sr501"
  name := "PIR Motion (HC-SR501)"
  description := "Detects infrared motion."
  category := .security
  requires := [.digitalIn]
  current := 0.1
  constructor := "// PIR on PIN_" ++ pinSlot 0
  setup := "pinMode(" ++ pinSlot 0 ++ ", INPUT);"
  topic := .telemetry
  telemetryField := some "motion_detected"
  telemetryRead := some <|
    "    sendTelemetry(\"" ++ fieldSlot ++ "\", digitalRead(" ++ pinSlot 0 ++ "));"

def hcSr04 : Peripheral where
  id := "hc-sr04"
  name := "Ultrasonic (HC-SR04)"
  description := "Distance sensor."
  category := .security
  requires := [.digitalOut, .digitalIn]
  current := 15
  constructor := "// Ultrasonic Trig: " ++ pinSlot 0 ++ ", Echo: " ++ pinSlot 1
  setup := "pinMode(" ++ pinSlot 0 ++ ", OUTPUT); pinMode(" ++ pinSlot 1 ++ ", INPUT);"
  topic := .telemetry
  telemetryField := some "distance_cm"
  telemetryRead := some <| Text.join "\n"
    ["    digitalWrite(" ++ pinSlot 0 ++ ", LOW); delayMicroseconds(2); digitalWrite(" ++
       pinSlot 0 ++ ", HIGH); delayMicroseconds(10); digitalWrite(" ++ pinSlot 0 ++ ", LOW);",
     "    long dur = pulseIn(" ++ pinSlot 1 ++ ", HIGH);",
     "    sendTelemetry(\"" ++ fieldSlot ++ "\", dur*0.034/2);"]

def magSwitch : Peripheral where
  id := "mag-switch"
  name := "Magnetic Door Switch"
  description := "Detects open/close status."
  category := .security
  requires := [.digitalIn]
  constructor := "// Door Reed Switch on PIN_" ++ pinSlot 0
  setup := "pinMode(" ++ pinSlot 0 ++ ", INPUT_PULLUP);"
  topic := .telemetry
  telemetryField := some "door_open"
  telemetryRead := some <|
    "    sendTelemetry(\"" ++ fieldSlot ++ "\", digitalRead(" ++ pinSlot 0 ++ "));"

def rainSensor : Peripheral where
  id := "rain-sensor"
  name := "Rain Sensor"
  description := "Detects rain drops."
  category := .environmental
  requires := [.analogIn]
  current := 5
  constructor := "const int rainPin_" ++ idSlot ++ " = " ++ pinSlot 0 ++ ";"
  setup := "pinMode(rainPin_" ++ idSlot ++ ", INPUT);"
  topic := .telemetry
  telemetryField := some "rain_level"
  telemetryRead := some <|
    "    sendTelemetry(\"" ++ fieldSlot ++ "\", analogRead(" ++ pinSlot 0 ++ "));"

def relay1ch : Peripheral where
  id := "relay-1ch"
  name := "Relay 1CH"
  description := "Control high voltage AC."
  category := .actuator
  requires := [.digitalOut]
  current := 70
  constructor := "const int relayPin_" ++ idSlot ++ " = " ++ pinSlot 0 ++ ";"
  setup :=
    "pinMode(relayPin_" ++ idSlot ++ ", OUTPUT); digitalWrite(relayPin_" ++ idSlot ++ ", HIGH);"
  topic := .command
  commandOn := some "LOW"
  commandOff := some "HIGH"

def servoSg90 : Peripheral where
  id := "servo-sg90"
  name := "Servo (SG90)"
  description := "Generic servo motor."
  category := .actuator
  requires := [.pwm]
  current := 200
  includes := ["#include <ESP32Servo.h>"]
  constructor :=
    "Servo servo_" ++ idSlot ++ "; const int servoPin_" ++ idSlot ++ " = " ++ pinSlot 0 ++ ";"
  setup := "servo_" ++ idSlot ++ ".attach(servoPin_" ++ idSlot ++ ");"
  topic := .command
  command := some <| "int angle = msg.toInt(); servo_" ++ idSlot ++ ".write(angle);"
  libraries := ["esp32servo"]

def activeBuzzer : Peripheral where
  id := "active-buzzer"
  name := "Active Buzzer"
  description := "Simple sound alarm."
  category := .actuator
  requires := [.digitalOut]
  current := 30
  constructor := "const int buzzerPin_" ++ idSlot ++ " = " ++ pinSlot 0 ++ ";"
  setup := "pinMode(buzzerPin_" ++ idSlot ++ ", OUTPUT);"
  topic := .command
  commandOn := some "HIGH"
  commandOff := some "LOW"

def ssd1306 : Peripheral where
  id := "ssd1306-i2c"
  name := "OLED Display (128x64)"
  description := "I2C OLED Screen."
  category := .display
  requires := [.i2c]
  bus := some .i2c
  current := 20
  includes := ["#include <Adafruit_GFX.h>", "#include <Adafruit_SSD1306.h>"]
  constructor := "Adafruit_SSD1306 display_" ++ idSlot ++ "(128, 64, &Wire, -1);"
  setup :=
    "if(!display_" ++ idSlot ++
      ".begin(SSD1306_SWITCHCAPVCC, 0x3C)) \x7b Serial.println(F(\"SSD1306 " ++ "fail\")); \x7d"
  libraries := ["ssd1306", "gfx", "busio"]

def lcd1602 : Peripheral where
  id := "lcd-1602-i2c"
  name := "LCD 1602 (I2C)"
  description := "16x2 Character Display with I2C Backpack."
  category := .display
  requires := [.i2c]
  bus := some .i2c
  current := 40
  includes := ["#include <LiquidCrystal_I2C.h>"]
  constructor := "LiquidCrystal_I2C lcd_" ++ idSlot ++ "(0x27, 16, 2);"
  setup := "lcd_" ++ idSlot ++ ".init(); lcd_" ++ idSlot ++ ".backlight();"
  libraries := ["liquidcrystal_i2c"]

def pzem004t : Peripheral where
  id := "pzem-004t"
  name := "PZEM-004T v3"
  description := "AC Voltage, Current, Power monitor."
  category := .power
  requires := [.uart, .uart]
  current := 10
  includes := ["#include <PZEM004Tv30.h>"]
  constructor :=
    "PZEM004Tv30 pzem_" ++ idSlot ++ "(Serial2, " ++ pinSlot 0 ++ ", " ++ pinSlot 1 ++ ");"
  topic := .telemetry
  telemetryField := some "power_ac"
  telemetryRead := some <| Text.join "\n"
    ["    float p = pzem_" ++ idSlot ++ ".power();",
     "    if(!isnan(p)) \x7b sendTelemetry(\"" ++ fieldSlot ++ "\", p); \x7d"]
  libraries := ["pzem004t"]

def voltageSensor : Peripheral where
  id := "voltage-sensor"
  name := "DC Voltage Sensor"
  description := "0-25V DC Voltage Divider."
  category := .power
  requires := [.analogIn]
  current := 1
  constructor := "const int voltPin_" ++ idSlot ++ " = " ++ pinSlot 0 ++ ";"
  setup := "pinMode(voltPin_" ++ idSlot ++ ", INPUT);"
  topic := .telemetry
  telemetryField := some "battery_v"
  telemetryRead := some <|
    "    sendTelemetry(\"" ++ fieldSlot ++ "\", analogRead(" ++ pinSlot 0 ++
      ") * (25.0 / 1023.0));"

def rfidRc522 : Peripheral where
  id := "rfid-rc522"
  name := "RFID RC522"
  description := "13.56MHz Card Reader."
  category := .identity
  requires := [.spi, .digitalOut]
  bus := some .spi
  current := 30
  includes := ["#include <SPI.h>", "#include <MFRC522.h>"]
  constructor :=
    "MFRC522 mfrc522_" ++ idSlot ++ "(" ++ pinSlot 0 ++ ", " ++ pinSlot 1 ++ "); // SS/SDA, RST"
  setup := "SPI.begin(); mfrc522_" ++ idSlot ++ ".PCD_Init();"
  topic := .telemetry
  telemetryField := some "card_uid"
  libraries := ["mfrc522"]

/-- The standard peripherals in the order of their listing. -/
def peripherals : List Peripheral :=
  [dht22, ds18b20, bme280, ldr, soilMoisture, pirHcSr501, hcSr04, magSwitch, rainSensor,
    relay1ch, servoSg90, activeBuzzer, ssd1306, lcd1602, pzem004t, voltageSensor, rfidRc522]

end SensorNode.Catalog.Standard
