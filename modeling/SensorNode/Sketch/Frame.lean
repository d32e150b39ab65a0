import SensorNode.Template
import SensorNode.Text.Lines

/-!
# The frame of a sketch

The parts of a sketch that are the same for every device: the headers, the functions of the
protocol, `setup` and `loop`. They are templates whose slots take what the attachments contribute.

A device speaks these topics. It publishes `online` or, as its last will, `offline` under `status`,
measurements under `tele/<key>`, commands that it carried out under `stat/<module>`, and its
description under `grids/discovery/<device>` when it connects and on request. It listens to
`cmnd/<module>` and to `grids/broadcast/discover`.
-/

namespace SensorNode.Sketch.Frame

open Template (literal slot)

def banner : String := "/** GRIDS-IOT-V1 Auto-Generated Code */"

def signature : String := "GRIDS-IOT-V1"

def firmwareVersion : String := "1.0.0"

/-- Milliseconds between two measurements. -/
def telemetryInterval : Nat := 5000

/-- Milliseconds between two attempts to connect. -/
def reconnectInterval : Nat := 5000

def coreIncludes : List String :=
  ["#include <PubSubClient.h>", "#include <ArduinoJson.h>", "#include <ArduinoOTA.h>"]

def esp32Includes : List String := ["#include <WiFi.h>", "#include <ESPmDNS.h>"]

def esp8266Includes : List String := ["#include <ESP8266WiFi.h>", "#include <ESP8266mDNS.h>"]

/-- Lines without slots, each with its line feed. -/
def block (lines : List String) : Template := lines.flatMap fun line => literal (line ++ "\n")

@[simp] theorem slots_block (lines : List String) : (block lines).slots = [] := by
  induction lines with
  | nil => rfl
  | cons line lines ih =>
    have h : block (line :: lines) = literal (line ++ "\n") ++ block lines := rfl
    simp [h, ih]

/-- The functions of the protocol. -/
def helpers : Template :=
  block
    ["void sendTelemetry(String key, float value) \x7b",
      "  JsonDocument doc;",
      "  doc[key] = value;",
      "  doc[\"unit\"] = \"raw\";",
      "  char buffer[256];",
      "  serializeJson(doc, buffer);",
      "  String topic = String(\"grids/\") + device_id + \"/tele/\" + key;",
      "  client.publish(topic.c_str(), buffer);",
      "\x7d",
      "",
      "void publishDiscovery() \x7b",
      "  JsonDocument doc;"] ++
  literal "  doc[\"sig\"] = \"" ++ slot "SIGNATURE" ++ literal "\";\n" ++
  block
    ["  doc[\"device_id\"] = device_id;",
      "  doc[\"uid\"] = ghost_identity;"] ++
  literal "  doc[\"board\"] = \"" ++ slot "BOARD" ++ literal "\";\n" ++
  literal "  doc[\"ver\"] = \"" ++ slot "VERSION" ++ literal "\";\n" ++
  block
    ["",
      "  JsonArray mods = doc[\"modules\"].to<JsonArray>();"] ++
  slot "DISCOVERY_MODULES" ++ literal "\n" ++
  block
    ["",
      "  char buffer[1024];",
      "  serializeJson(doc, buffer);",
      "  String topic = String(\"grids/discovery/\") + device_id;",
      "  client.publish(topic.c_str(), buffer);",
      "\x7d",
      "",
      "void callback(char* topic, byte* payload, unsigned int length) \x7b",
      "  String msg = \"\";",
      "  for (unsigned int i = 0; i < length; i++) msg += (char)payload[i];",
      "  Serial.print(\"[MQTT] \"); Serial.print(topic); Serial.print(\": \"); " ++
        "Serial.println(msg);",
      "",
      "  String topicStr = String(topic);",
      "",
      "  // Discovery broadcast",
      "  if (topicStr == \"grids/broadcast/discover\" && msg == \"SCAN\") \x7b",
      "    publishDiscovery();",
      "    return;",
      "  \x7d",
      "",
      "  // Command handling",
      "  if (topicStr.startsWith(String(\"grids/\") + device_id + \"/cmnd/\")) \x7b",
      "    String mod = topicStr.substring(topicStr.lastIndexOf('/') + 1);"] ++
  slot "COMMAND_BRANCHES" ++ literal "\n" ++
  block
    ["  \x7d",
      "\x7d",
      "",
      "void setupOTA() \x7b",
      "  ArduinoOTA.setHostname(device_id);",
      "  ArduinoOTA.onStart([]() \x7b Serial.println(\"Start updating\"); \x7d);",
      "  ArduinoOTA.onEnd([]() \x7b Serial.println(\"\\nEnd\"); \x7d);",
      "  ArduinoOTA.onProgress([](unsigned int progress, unsigned int total) \x7b",
      "    Serial.printf(\"Progress: %u%%\\r\", (progress / (total / 100)));",
      "  \x7d);",
      "  ArduinoOTA.onError([](ota_error_t error) \x7b",
      "    Serial.printf(\"Error[%u]: \", error);",
      "  \x7d);",
      "  ArduinoOTA.begin();",
      "\x7d",
      "",
      "boolean reconnect() \x7b",
      "  String statusTopic = String(\"grids/\") + device_id + \"/status\";",
      "  if (client.connect(device_id, NULL, NULL, statusTopic.c_str(), 1, true, " ++
        "\"offline\")) \x7b",
      "    Serial.println(\"MQTT Connected\");",
      "    client.publish(statusTopic.c_str(), \"online\", true);",
      "    client.subscribe((String(\"grids/\") + device_id + \"/cmnd/#\").c_str());",
      "    client.subscribe(\"grids/broadcast/discover\");",
      "    publishDiscovery();",
      "    return true;",
      "  \x7d",
      "  return false;",
      "\x7d"]

@[simp] theorem slots_helpers :
    helpers.slots = ["SIGNATURE", "BOARD", "VERSION", "DISCOVERY_MODULES", "COMMAND_BRANCHES"] := by
  simp [helpers]

def setup : Template :=
  block
    ["void setup() \x7b",
      "  Serial.begin(115200);",
      "",
      "  // Connect WiFi (timeout 10s)",
      "  WiFi.mode(WIFI_STA);",
      "  WiFi.begin(ssid, password);",
      "  int try_wifi = 0;",
      "  while (WiFi.status() != WL_CONNECTED && try_wifi < 20) \x7b delay(500); " ++
        "Serial.print(\".\"); try_wifi++; \x7d",
      "  if (WiFi.status() == WL_CONNECTED) Serial.println(\"\\nWiFi Connected\");",
      "  else Serial.println(\"\\nWiFi Timeout\");",
      "",
      "  setupOTA();",
      "  client.setServer(mqtt_server, mqtt_port);",
      "  client.setCallback(callback);",
      ""] ++
  slot "MODULE_SETUP" ++ literal "\n" ++
  block
    ["\x7d"]

@[simp] theorem slots_setup : setup.slots = ["MODULE_SETUP"] := by
  simp [setup]

/-- The loop never blocks: it tries to connect again only after an interval. -/
def loop : Template :=
  block
    ["unsigned long lastReconnect = 0;",
      "void loop() \x7b",
      "  ArduinoOTA.handle();",
      "",
      "  if (!client.connected()) \x7b",
      "    unsigned long now = millis();"] ++
  literal "    if (now - lastReconnect > " ++ slot "RECONNECT_INTERVAL" ++ literal ") \x7b\n" ++
  block
    ["      lastReconnect = now;",
      "      if (reconnect()) \x7b lastReconnect = 0; \x7d",
      "    \x7d",
      "  \x7d else \x7b",
      "    client.loop();",
      "  \x7d",
      ""] ++
  slot "MODULE_LOOP" ++ literal "\n" ++
  block
    ["\x7d"]

@[simp] theorem slots_loop : loop.slots = ["RECONNECT_INTERVAL", "MODULE_LOOP"] := by
  simp [loop]

/-- What a command does for a peripheral that does not say: it switches the first pin. -/
def switchCommand : Template :=
  literal "if (msg == \"ON\") digitalWrite(" ++ slot "PIN_0" ++ literal ", " ++ slot "ON" ++
  literal ");\nif (msg == \"OFF\") digitalWrite(" ++ slot "PIN_0" ++ literal ", " ++ slot "OFF" ++
  literal ");"

@[simp] theorem slots_switchCommand : switchCommand.slots = ["PIN_0", "ON", "PIN_0", "OFF"] := by
  simp [switchCommand]

/-- Acknowledges a command that was carried out. -/
def acknowledgement : String :=
  "client.publish((String(\"grids/\") + device_id + \"/stat/\" + mod).c_str(), msg.c_str());"

end SensorNode.Sketch.Frame
