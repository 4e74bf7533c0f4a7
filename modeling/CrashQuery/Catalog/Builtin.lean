import CrashQuery.Catalog

/-!
# The built-in catalog

The field definitions that are used where no others are configured.
-/

namespace CrashQuery.Catalog

/-- The built-in field definitions. -/
def builtinFields : List Field :=
  [{ publicName := "uuid", storageName := "uuid", origin := .processed, kind := .text,
      description := some "Unique identifier of the crash report" },
    { publicName := "date", storageName := "date_processed", origin := .processed,
      kind := .datetime, description := some "Date the crash was processed" },
    { publicName := "client_crash_date", storageName := "client_crash_date", origin := .processed,
      kind := .datetime },
    { publicName := "signature", storageName := "signature", origin := .processed, kind := .text,
      hasFull := true, isFacetable := true },
    { publicName := "product", storageName := "product", origin := .processed, kind := .term,
      isFacetable := true },
    { publicName := "version", storageName := "version", origin := .processed, kind := .term,
      isFacetable := true },
    { publicName := "release_channel", storageName := "release_channel", origin := .processed,
      kind := .term, isFacetable := true },
    { publicName := "build_id", storageName := "build", origin := .processed, kind := .integer,
      isFacetable := true },
    { publicName := "platform", storageName := "os_name", origin := .processed, kind := .term,
      isFacetable := true },
    { publicName := "platform_version", storageName := "os_version", origin := .processed,
      kind := .text, isFacetable := true },
    { publicName := "cpu_arch", storageName := "cpu_name", origin := .processed, kind := .term,
      isFacetable := true },
    { publicName := "reason", storageName := "reason", origin := .processed, kind := .text,
      hasFull := true, isFacetable := true },
    { publicName := "address", storageName := "address", origin := .processed, kind := .text,
      isFacetable := true },
    { publicName := "process_type", storageName := "process_type", origin := .processed,
      kind := .term, isFacetable := true },
    { publicName := "uptime", storageName := "uptime", origin := .processed, kind := .integer },
    { publicName := "install_age", storageName := "install_age", origin := .processed,
      kind := .integer },
    { publicName := "startup_crash", storageName := "startup_crash", origin := .processed,
      kind := .boolean, isFacetable := true },
    { publicName := "topmost_filenames", storageName := "topmost_filenames", origin := .processed,
      kind := .text, hasFull := true, isFacetable := true },
    { publicName := "app_notes", storageName := "app_notes", origin := .processed, kind := .text,
      hasFull := true },
    { publicName := "user_comments", storageName := "user_comments", origin := .processed,
      kind := .text, hasFull := true },
    { publicName := "java_stack_trace", storageName := "java_stack_trace", origin := .processed,
      kind := .text, hasFull := true },
    { publicName := "dump", storageName := "dump", origin := .processed, kind := .text },
    { publicName := "url", storageName := "url", origin := .processed, kind := .text,
      hasFull := true, permissions := ["view_pii"] },
    { publicName := "email", storageName := "email", origin := .processed, kind := .text,
      hasFull := true, permissions := ["view_pii"] },
    { publicName := "accessibility", storageName := "Accessibility", origin := .raw,
      kind := .boolean, isFacetable := true },
    { publicName := "adapter_vendor_id", storageName := "AdapterVendorID", origin := .raw,
      kind := .text, isFacetable := true },
    { publicName := "adapter_device_id", storageName := "AdapterDeviceID", origin := .raw,
      kind := .text, isFacetable := true },
    { publicName := "is_garbage_collecting", storageName := "IsGarbageCollecting", origin := .raw,
      kind := .boolean, isFacetable := true },
    { publicName := "last_crash", storageName := "SecondsSinceLastCrash", origin := .raw,
      kind := .integer },
    { publicName := "plugin_filename", storageName := "PluginFilename", origin := .raw,
      kind := .text, hasFull := true, isFacetable := true },
    { publicName := "useragent_locale", storageName := "useragent_locale", origin := .raw,
      kind := .text, isFacetable := true },
    { publicName := "throttle_rate", storageName := "Throttleable", origin := .raw,
      kind := .integer }]

/-- The built-in catalog. -/
def builtin : Catalog where
  version := 3
  fields := builtinFields
  faultless := by decide +kernel

end CrashQuery.Catalog
