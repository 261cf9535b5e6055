import AccessGateway.Config.Basic
import AccessGateway.Settings.Decode

/-!
# The configuration as a record

The sections and their fields by name, in the order in which a section given as a list is read; and the
configuration as a JSON object under the same names.
-/

namespace AccessGateway

open Settings (Decoder)
open Settings.Decoder

/-- The `server` section. -/
def ServerConfig.fields : List (RecordField ServerConfig) := [
  field "host" text fun v c => { c with host := v },
  field "http_port" word16 fun v c => { c with httpPort := v },
  field "tcp_port" word16 fun v c => { c with tcpPort := v },
  field "udp_port" word16 fun v c => { c with udpPort := v },
  field "request_timeout" duration fun v c => { c with requestTimeout := v },
  field "idle_timeout" duration fun v c => { c with idleTimeout := v },
  field "shutdown_timeout" duration fun v c => { c with shutdownTimeout := v },
  field "max_body_size" word64 fun v c => { c with maxBodySize := v },
  field "mirror_body_limit" word64 fun v c => { c with mirrorBodyLimit := v },
  field "target_scheme" text fun v c => { c with targetScheme := v },
  field "udp_response_timeout" duration fun v c => { c with udpResponseTimeout := v },
  field "preamble_timeout" duration fun v c => { c with preambleTimeout := v },
  field "connect_timeout" duration fun v c => { c with connectTimeout := v },
  field "gateway_id" text fun v c => { c with gatewayId := v }]

/-- The `auth` section. -/
def AuthConfig.fields : List (RecordField AuthConfig) := [
  field "mode" (choice AuthMode.ofName?) fun v c => { c with mode := v },
  field "backend_url" text fun v c => { c with backendUrl := v },
  field "algorithm" text fun v c => { c with algorithm := v },
  field "key_refresh_interval" duration fun v c => { c with keyRefreshInterval := v }]

/-- The `mirror` section. -/
def MirrorConfig.fields : List (RecordField MirrorConfig) := [
  field "enabled" bool fun v c => { c with enabled := v },
  field "destinations" (list text) fun v c => { c with destinations := v },
  field "protocol" text fun v c => { c with protocol := v },
  field "queue_size" word64 fun v c => { c with queueSize := v },
  field "workers" word64 fun v c => { c with workers := v },
  field "vni" word32 fun v c => { c with vni := v },
  field "erspan_session_id" word16 fun v c => { c with erspanSessionId := v },
  field "erspan_vlan" word16 fun v c => { c with erspanVlan := v },
  field "ids_host" (optional text) fun v c => { c with idsHost := v },
  field "ids_port" word16 fun v c => { c with idsPort := v },
  field "stats_interval" duration fun v c => { c with statsInterval := v }]

/-- The `firewall` section. -/
def FirewallConfig.fields : List (RecordField FirewallConfig) := [
  field "enabled" bool fun v c => { c with enabled := v },
  field "url" text fun v c => { c with url := v },
  field "token" (optional text) fun v c => { c with token := v },
  field "timeout" duration fun v c => { c with timeout := v }]

/-- The `audit` section. -/
def AuditConfig.fields : List (RecordField AuditConfig) := [
  field "host" (optional text) fun v c => { c with host := v },
  field "port" word16 fun v c => { c with port := v },
  field "queue_size" word64 fun v c => { c with queueSize := v }]

/-- The `dynamic_ports` section. -/
def DynamicPortsConfig.fields : List (RecordField DynamicPortsConfig) := [
  field "enabled" bool fun v c => { c with enabled := v },
  field "backend_url" text fun v c => { c with backendUrl := v },
  field "gateway_id" text fun v c => { c with gatewayId := v },
  field "cluster_id" text fun v c => { c with clusterId := v },
  field "refresh_interval" duration fun v c => { c with refreshInterval := v },
  field "bind_host" text fun v c => { c with bindHost := v },
  field "tcp_ranges" text fun v c => { c with tcpRanges := v },
  field "udp_ranges" text fun v c => { c with udpRanges := v }]

/-- The `metrics` section. -/
def MetricsConfig.fields : List (RecordField MetricsConfig) := [
  field "token" (optional text) fun v c => { c with token := v }]

/-- The `routing` section. -/
def RoutingConfig.fields : List (RecordField RoutingConfig) := [
  field "peers" (Decoder.map text) fun v c => { c with peers := v }]

namespace Config

/-- The sections. -/
def fields : List (RecordField Config) := [
  field "env_files" (list text) fun v c => { c with envFiles := v },
  field "server" (record ServerConfig.fields {}) fun v c => { c with server := v },
  field "auth" (record AuthConfig.fields {}) fun v c => { c with auth := v },
  field "mirror" (record MirrorConfig.fields {}) fun v c => { c with mirror := v },
  field "firewall" (record FirewallConfig.fields {}) fun v c => { c with firewall := v },
  field "audit" (record AuditConfig.fields {}) fun v c => { c with audit := v },
  field "dynamic_ports" (record DynamicPortsConfig.fields {}) fun v c => { c with dynamicPorts := v },
  field "metrics" (record MetricsConfig.fields {}) fun v c => { c with metrics := v },
  field "routing" (record RoutingConfig.fields {}) fun v c => { c with routing := v }]

/-- Reads a tree of settings. -/
def ofSettings (s : Setting) : Except Settings.Blame Config := record fields {} s

end Config

private def durationJson (d : Duration) : Json := .text d.render

/-- The `server` section as an object. -/
def ServerConfig.toJson (c : ServerConfig) : Json := .object [
  ("host", .text c.host), ("http_port", .nat c.httpPort), ("tcp_port", .nat c.tcpPort), ("udp_port", .nat c.udpPort),
  ("request_timeout", durationJson c.requestTimeout), ("idle_timeout", durationJson c.idleTimeout),
  ("shutdown_timeout", durationJson c.shutdownTimeout), ("max_body_size", .nat c.maxBodySize),
  ("mirror_body_limit", .nat c.mirrorBodyLimit), ("target_scheme", .text c.targetScheme),
  ("udp_response_timeout", durationJson c.udpResponseTimeout), ("preamble_timeout", durationJson c.preambleTimeout),
  ("connect_timeout", durationJson c.connectTimeout), ("gateway_id", .text c.gatewayId)]

/-- The `auth` section as an object. -/
def AuthConfig.toJson (c : AuthConfig) : Json := .object [
  ("mode", .text c.mode.name), ("backend_url", .text c.backendUrl), ("algorithm", .text c.algorithm),
  ("key_refresh_interval", durationJson c.keyRefreshInterval)]

/-- The `mirror` section as an object. -/
def MirrorConfig.toJson (c : MirrorConfig) : Json := .object [
  ("enabled", .bool c.enabled), ("destinations", .texts c.destinations), ("protocol", .text c.protocol),
  ("queue_size", .nat c.queueSize), ("workers", .nat c.workers), ("vni", .nat c.vni),
  ("erspan_session_id", .nat c.erspanSessionId), ("erspan_vlan", .nat c.erspanVlan),
  ("ids_host", .optional c.idsHost), ("ids_port", .nat c.idsPort), ("stats_interval", durationJson c.statsInterval)]

/-- The `firewall` section as an object. -/
def FirewallConfig.toJson (c : FirewallConfig) : Json := .object [
  ("enabled", .bool c.enabled), ("url", .text c.url), ("token", .optional c.token), ("timeout", durationJson c.timeout)]

/-- The `audit` section as an object. -/
def AuditConfig.toJson (c : AuditConfig) : Json := .object [
  ("host", .optional c.host), ("port", .nat c.port), ("queue_size", .nat c.queueSize)]

/-- The `dynamic_ports` section as an object. -/
def DynamicPortsConfig.toJson (c : DynamicPortsConfig) : Json := .object [
  ("enabled", .bool c.enabled), ("backend_url", .text c.backendUrl), ("gateway_id", .text c.gatewayId),
  ("cluster_id", .text c.clusterId), ("refresh_interval", durationJson c.refreshInterval),
  ("bind_host", .text c.bindHost), ("tcp_ranges", .text c.tcpRanges), ("udp_ranges", .text c.udpRanges)]

def Config.toJson (c : Config) : Json := .object [
  ("env_files", .texts c.envFiles), ("server", c.server.toJson), ("auth", c.auth.toJson), ("mirror", c.mirror.toJson),
  ("firewall", c.firewall.toJson), ("audit", c.audit.toJson), ("dynamic_ports", c.dynamicPorts.toJson),
  ("metrics", .object [("token", .optional c.metrics.token)]),
  ("routing", .object [("peers", .object (c.routing.peers.map fun (k, v) => (k, .text v)))])]

end AccessGateway
