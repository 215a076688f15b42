/-
# Vulkan result codes

The codes with which Vulkan calls end, and their names.
-/
import WindowSystem.Number.Decimal

namespace WindowSystem.Vulkan

/-- The code with which a call ended. -/
structure ResultCode where
  code : Int
  deriving DecidableEq, Repr

namespace ResultCode

/-- All went well. -/
def success : ResultCode := ⟨0⟩

/-- An extension is missing. -/
def extensionNotPresent : ResultCode := ⟨-7⟩

/-- The codes that have names. -/
def names : List (Int × String) :=
  [(0, "SUCCESS"), (1, "NOT_READY"), (2, "TIMEOUT"), (3, "EVENT_SET"), (4, "EVENT_RESET"),
   (5, "INCOMPLETE"), (-1, "ERROR_OUT_OF_HOST_MEMORY"), (-2, "ERROR_OUT_OF_DEVICE_MEMORY"),
   (-3, "ERROR_INITIALIZATION_FAILED"), (-4, "ERROR_DEVICE_LOST"),
   (-5, "ERROR_MEMORY_MAP_FAILED"), (-6, "ERROR_LAYER_NOT_PRESENT"),
   (-7, "ERROR_EXTENSION_NOT_PRESENT"), (-8, "ERROR_FEATURE_NOT_PRESENT"),
   (-9, "ERROR_INCOMPATIBLE_DRIVER"), (-10, "ERROR_TOO_MANY_OBJECTS"),
   (-11, "ERROR_FORMAT_NOT_SUPPORTED"), (-12, "ERROR_FRAGMENTED_POOL"), (-13, "ERROR_UNKNOWN"),
   (-1000069000, "ERROR_OUT_OF_POOL_MEMORY"), (-1000072003, "ERROR_INVALID_EXTERNAL_HANDLE"),
   (-1000161000, "ERROR_FRAGMENTATION"), (-1000257000, "ERROR_INVALID_OPAQUE_CAPTURE_ADDRESS"),
   (1000297000, "PIPELINE_COMPILE_REQUIRED"), (-1000000000, "ERROR_SURFACE_LOST_KHR"),
   (-1000000001, "ERROR_NATIVE_WINDOW_IN_USE_KHR"), (1000001003, "SUBOPTIMAL_KHR"),
   (-1000001004, "ERROR_OUT_OF_DATE_KHR"), (-1000003001, "ERROR_INCOMPATIBLE_DISPLAY_KHR"),
   (-1000011001, "ERROR_VALIDATION_FAILED_EXT"), (-1000012000, "ERROR_INVALID_SHADER_NV"),
   (-1000023000, "ERROR_IMAGE_USAGE_NOT_SUPPORTED_KHR"),
   (-1000023001, "ERROR_VIDEO_PICTURE_LAYOUT_NOT_SUPPORTED_KHR"),
   (-1000023002, "ERROR_VIDEO_PROFILE_OPERATION_NOT_SUPPORTED_KHR"),
   (-1000023003, "ERROR_VIDEO_PROFILE_FORMAT_NOT_SUPPORTED_KHR"),
   (-1000023004, "ERROR_VIDEO_PROFILE_CODEC_NOT_SUPPORTED_KHR"),
   (-1000023005, "ERROR_VIDEO_STD_VERSION_NOT_SUPPORTED_KHR"),
   (-1000158000, "ERROR_INVALID_DRM_FORMAT_MODIFIER_PLANE_LAYOUT_EXT"),
   (-1000174001, "ERROR_NOT_PERMITTED_KHR"),
   (-1000255000, "ERROR_FULL_SCREEN_EXCLUSIVE_MODE_LOST_EXT"),
   (1000268000, "THREAD_IDLE_KHR"), (1000268001, "THREAD_DONE_KHR"),
   (1000268002, "OPERATION_DEFERRED_KHR"), (1000268003, "OPERATION_NOT_DEFERRED_KHR"),
   (-1000299000, "ERROR_INVALID_VIDEO_STD_PARAMETERS_KHR"),
   (-1000338000, "ERROR_COMPRESSION_EXHAUSTED_EXT"),
   (1000482000, "ERROR_INCOMPATIBLE_SHADER_BINARY_EXT")]

/-- The name of a code, or its number if it has none. -/
def text (r : ResultCode) : String :=
  match names.find? fun row => row.1 = r.code with
  | some (_, name) => name
  | none => integerText r.code

end ResultCode

end WindowSystem.Vulkan
